import Caretaker.Error
import Caretaker.Object

/-!
# Programs that ask a store

A request asks a store to read or write objects of a kind, and its answer has the type that the
request calls for.  A program is a tree of requests: it ends with a result, or it makes a request
and goes on with whatever answer it gets.  Nothing in a program says what a store is; `Program.run`
runs one over any state and any way to answer requests.
-/

namespace Caretaker

/-- What a program may ask a store. -/
inductive Request where
  /-- Read the object of a kind, a namespace and a name. -/
  | get (kind : Kind) (ns name : String)
  /-- Read the objects of a kind and a namespace that carry the given labels. -/
  | list (kind : Kind) (ns : String) (labels : LabelMap)
  /-- Read the storage classes of the cluster. -/
  | listStorageClasses
  /-- Write a new object. -/
  | create (kind : Kind) (object : Object kind)
  /-- Replace an object. -/
  | update (kind : Kind) (object : Object kind)
  /-- Replace the status of an object. -/
  | updateStatus (kind : Kind) (object : Object kind)

namespace Request

/-- The type of the answer to a request. -/
def Answer : Request → Type
  | get kind _ _ => Object kind
  | list kind _ _ => List (Object kind)
  | listStorageClasses => List StorageClass
  | create kind _ | update kind _ | updateStatus kind _ => Object kind

/-- What a request does. -/
def verb : Request → Verb
  | get .. => .get
  | list .. | listStorageClasses => .list
  | create .. => .create
  | update .. => .update
  | updateStatus .. => .updateStatus

/-- The kind that a request is about. -/
def kind : Request → Kind
  | get kind _ _ | list kind _ _ | create kind _ | update kind _ | updateStatus kind _ => kind
  | listStorageClasses => .storageClass

end Request

/-- A tree of requests that ends with a value or an error. -/
inductive Program (α : Type) where
  /-- The program is over. -/
  | done (result : Except Error α)
  /-- Make a request and go on with its answer. -/
  | ask (request : Request) (next : Except Error request.Answer → Program α)

namespace Program

variable {α β σ : Type}

/-- Go on with the value of a program; an error ends it. -/
def bind (program : Program α) (next : α → Program β) : Program β :=
  match program with
  | done (.ok value) => next value
  | done (.error error) => done (.error error)
  | ask request rest => ask request fun answer => (rest answer).bind next

instance : Monad Program where
  pure value := done (.ok value)
  bind := bind

/-- A program that fails. -/
def fail (error : Error) : Program α := done (.error error)

/-- A program that makes no request. -/
def ofExcept (result : Except Error α) : Program α := done result

/-- Make a request and return its answer, be it an error. -/
def attempt (request : Request) : Program (Except Error request.Answer) :=
  ask request fun answer => done (.ok answer)

/-- Make a request; an error ends the program. -/
def perform (request : Request) : Program request.Answer :=
  ask request done

/-- Run a program from a state; `answer` answers a request and says which state it leaves. -/
def run (answer : σ → (request : Request) → Except Error request.Answer × σ) :
    Program α → σ → Except Error α × σ
  | done result, state => (result, state)
  | ask request next, state =>
    let reply := answer state request
    (next reply.1).run answer reply.2

@[simp]
theorem bind_done_ok (value : α) (next : α → Program β) :
    bind (done (.ok value)) next = next value := rfl

@[simp]
theorem bind_done_error (error : Error) (next : α → Program β) :
    bind (done (.error error)) next = done (.error error) := rfl

/-- A program that goes on with another runs it from the state that the first one leaves. -/
theorem run_bind (answer : σ → (request : Request) → Except Error request.Answer × σ)
    (program : Program α) (next : α → Program β) (state : σ) :
    (program.bind next).run answer state =
      match program.run answer state with
      | (.ok value, state) => (next value).run answer state
      | (.error error, state) => (.error error, state) := by
  induction program generalizing state with
  | done result => cases result <;> rfl
  | ask request rest ih => exact ih _ _

end Program

end Caretaker
