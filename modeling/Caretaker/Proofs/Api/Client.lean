import Caretaker.Api.Server
import Caretaker.Proofs.Store.Answer

/-!
# What a client answers

A client answers the requests of a program over a connection, which may reply to a message with
anything or not at all (`Client.answer`); a server with a script is one (`Server.answer_eq`).  Only
a look-up is answered that nothing is there (`Client.isGet_of_answer`), and that is so whenever it
is refused with the code 404, while any other refused request ends with what the server says
(`Client.read_of_refusal`).
-/

namespace Caretaker

namespace Api

namespace Client

variable {σ : Type}

/-- Answer a request over a connection.  A request that cannot be sent leaves the connection as it
is. -/
def answer (connection : σ → Message → Option Reply × σ) (state : σ) (request : Request) :
    Except Error request.Answer × σ :=
  match message request with
  | .error error => (.error error, state)
  | .ok message =>
    let (reply, state) := connection state message
    (read request reply, state)

/-- A request that cannot be sent does not end with the error that nothing is there. -/
theorem isNotFound_of_message {request : Request} {error : Error}
    (unsent : message request = .error error) : error.isNotFound = false := by
  have send {method : Method} {path : String} {query : List (String × String)}
      {body : Option Json} (unsent : send method path query body = .error error) :
      error.isNotFound = false := by
    unfold send at unsent
    split at unsent
    · cases unsent
    · cases unsent
      rfl
  have named {kind : Kind} {ns name : String} {next : String → Except Error Message}
      (rest : ∀ path, next path = .error error → error.isNotFound = false)
      (unsent : (namedPath kind ns name >>= next) = .error error) : error.isNotFound = false := by
    unfold namedPath at unsent
    split at unsent
    · cases unsent
      rfl
    · exact rest _ unsent
  have written {kind : Kind} {object : Object kind} {next : Key → Except Error Message}
      (rest : ∀ key, next key = .error error → error.isNotFound = false)
      (unsent : (Key.forWriting object >>= next) = .error error) : error.isNotFound = false := by
    cases writable : Key.forWriting object with
    | error reason =>
      rw [writable] at unsent
      cases unsent
      exact Key.isNotFound_of_forWriting writable
    | ok key =>
      rw [writable] at unsent
      exact rest key unsent
  cases request with
  | get => exact named (fun _ => send) unsent
  | list => exact send unsent
  | listStorageClasses =>
    rw [message] at unsent
    exact send unsent
  | create => exact written (fun _ => send) unsent
  | update => exact written (fun _ => named fun _ => send) unsent
  | updateStatus => exact written (fun _ => named fun _ => send) unsent

/-- Only a look-up that is refused is answered that nothing is there. -/
theorem isGet_of_read {request : Request} {reply : Option Reply} {error : Error}
    (answered : read request reply = .error error) (notFound : error.isNotFound = true) :
    request.verb = .get := by
  unfold read at answered
  split at answered
  · cases answered
    cases notFound
  · split at answered
    · cases answered
      cases request with
      | get => rfl
      | list | listStorageClasses | create | update | updateStatus => cases notFound
    · split at answered
      · cases answered
      · cases answered
        cases notFound

/-- Whatever the connection replies, only a look-up is answered that nothing is there. -/
theorem isGet_of_answer {connection : σ → Message → Option Reply × σ} {state : σ}
    {request : Request} {error : Error}
    (answered : (answer connection state request).1 = .error error)
    (notFound : error.isNotFound = true) : request.verb = .get := by
  unfold answer at answered
  split at answered
  · next unsent =>
    cases answered
    cases notFound.symm.trans (isNotFound_of_message unsent)
  · exact isGet_of_read answered notFound

/-- What a refused request ends with: a look-up that is refused with the code 404 says that nothing
is there, and any other request gives what the server says. -/
theorem read_of_refusal {request : Request} {reply : Reply} (refusal : reply.isRefusal = true) :
    read request (some reply) = .error (refused request (Refusal.ofReply reply)) :=
  if_pos refusal

theorem refused_of_not_get {request : Request} (other : request.verb ≠ .get) (refusal : Refusal) :
    refused request refusal = .refused refusal := by
  cases request with
  | get => exact absurd rfl other
  | list | listStorageClasses | create | update | updateStatus => rfl

end Client

/-- A server with a script is a connection. -/
theorem Server.answer_eq : Server.answer = Client.answer Server.reply := rfl

end Api

end Caretaker
