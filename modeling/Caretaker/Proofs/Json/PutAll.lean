import Caretaker.Proofs.Json.Put

/-!
# Writing at several paths

`Json.putAll` writes to paths one after the other.  If the paths are independent of each other, each
write is found afterwards (`Json.reach_putAll`), everything independent of the paths stays
(`Json.reach_putAll_of_independent`), and writing to the same paths again replaces what was written
before (`Json.putAll_putAll`).
-/

namespace Caretaker

namespace Json

/-- Give each path the value that belongs to it, or take its value out. -/
def putAll (value : List String → Option Json) (paths : List (List String))
    (current : Option Json) : Option Json :=
  paths.foldl (fun current path => put (value path) path current) current

variable {value : List String → Option Json} {paths : List (List String)} {current : Option Json}

@[simp]
theorem putAll_nil : putAll value [] current = current := rfl

theorem putAll_cons (path : List String) :
    putAll value (path :: paths) current = putAll value paths (put (value path) path current) := rfl

theorem putAll_append (more : List (List String)) :
    putAll value (paths ++ more) current = putAll value more (putAll value paths current) :=
  List.foldl_append

theorem putAll_congr {other : List String → Option Json}
    (alike : ∀ path ∈ paths, value path = other path) :
    putAll value paths current = putAll other paths current := by
  induction paths generalizing current with
  | nil => rfl
  | cons head rest ih =>
    rw [putAll_cons, putAll_cons, alike head List.mem_cons_self]
    exact ih fun path member => alike path (List.mem_cons_of_mem _ member)

theorem independent_head {path head : List String}
    (independent : List.Pairwise Independent (head :: paths)) (member : path ∈ paths) :
    Independent path head :=
  ((List.pairwise_cons.mp independent).1 path member).symm

theorem eq_or_independent_of_mem {left right : List String}
    (independent : paths.Pairwise Independent) (leftMember : left ∈ paths)
    (rightMember : right ∈ paths) : left = right ∨ Independent left right := by
  have forwards : paths.Pairwise fun left right => left = right ∨ Independent left right :=
    independent.imp Or.inr
  have backwards : paths.Pairwise fun left right => right = left ∨ Independent right left :=
    independent.imp fun apart => Or.inr apart.symm
  refine List.Pairwise.forall_of_forall_of_flip (fun _ _ => ?_) forwards backwards leftMember
    rightMember
  exact Or.inl rfl

theorem Clear.putAll {path : List String} (clear : Clear path current)
    (allClear : ∀ other ∈ paths, Clear other current)
    (independent : paths.Pairwise Independent)
    (apart : ∀ other ∈ paths, path = other ∨ Independent path other) :
    Clear path (putAll value paths current) := by
  induction paths generalizing current with
  | nil => exact clear
  | cons head rest ih =>
    have headClear := allClear head List.mem_cons_self
    refine ih (clear.put headClear (apart head List.mem_cons_self) _) (fun other member => ?_)
      (List.pairwise_cons.mp independent).2 fun other member =>
        apart other (List.mem_cons_of_mem _ member)
    exact (allClear other (List.mem_cons_of_mem _ member)).put headClear
      (Or.inr (independent_head independent member)) _

theorem Open.putAll {path : List String} (isOpen : Open path current)
    (independent : ∀ other ∈ paths, Independent path other) :
    Open path (putAll value paths current) := by
  induction paths generalizing current with
  | nil => exact isOpen
  | cons head rest ih =>
    exact ih (isOpen.put (independent head List.mem_cons_self) _) fun other member =>
      independent other (List.mem_cons_of_mem _ member)

/-- A write at an open path leaves it open. -/
theorem Open.put_self {path : List String} (isOpen : Open path current) (written : Option Json) :
    Open path (Json.put written path current) := by
  induction path generalizing current with
  | nil => trivial
  | cons name rest ih =>
    obtain ⟨members, rfl, sorted, below⟩ := isOpen
    refine ⟨_, rfl, Assoc.ascending_alter sorted _ _, ?_⟩
    rw [Assoc.get?_alter, if_pos rfl]
    exact ih below

theorem Open.putAll_of_mem {path : List String} (isOpen : Open path current)
    (independent : paths.Pairwise Independent) (member : path ∈ paths) :
    Open path (Json.putAll value paths current) := by
  induction paths generalizing current with
  | nil => cases member
  | cons head rest ih =>
    obtain ⟨apart, restIndependent⟩ := List.pairwise_cons.mp independent
    rcases List.mem_cons.mp member with rfl | later
    · exact (isOpen.put_self _).putAll apart
    · exact ih (isOpen.put (independent_head independent later) _) restIndependent later

/-- The paths of a list stay clear while they are written. -/
theorem clear_put_of_pairwise {head : List String} (allClear : ∀ path ∈ head :: paths,
    Clear path current) (independent : List.Pairwise Independent (head :: paths))
    (written : Option Json) : ∀ path ∈ paths, Clear path (put written head current) :=
  fun path member => (allClear path (List.mem_cons_of_mem _ member)).put
    (allClear head List.mem_cons_self) (Or.inr (independent_head independent member)) _

/-- Nothing that is independent of the paths changes. -/
theorem reach_putAll_of_independent {path : List String}
    (allClear : ∀ other ∈ paths, Clear other current) (independent : paths.Pairwise Independent)
    (apart : ∀ other ∈ paths, Independent other path) :
    reach path (putAll value paths current) = reach path current := by
  induction paths generalizing current with
  | nil => rfl
  | cons head rest ih =>
    rw [putAll_cons, ih (clear_put_of_pairwise allClear independent _)
      (List.pairwise_cons.mp independent).2 fun other member =>
        apart other (List.mem_cons_of_mem _ member)]
    exact reach_put_of_independent (allClear head List.mem_cons_self).passable
      (apart head List.mem_cons_self) _

/-- What was written at a path is found there. -/
theorem reach_putAll {path : List String} (allClear : ∀ other ∈ paths, Clear other current)
    (independent : paths.Pairwise Independent) (member : path ∈ paths) :
    reach path (putAll value paths current) = value path := by
  induction paths generalizing current with
  | nil => cases member
  | cons head rest ih =>
    have restClear := clear_put_of_pairwise allClear independent (value head)
    obtain ⟨apart, restIndependent⟩ := List.pairwise_cons.mp independent
    rcases List.mem_cons.mp member with rfl | later
    · rw [putAll_cons, reach_putAll_of_independent restClear restIndependent fun other member =>
        (apart other member).symm]
      exact reach_put (allClear path List.mem_cons_self).passable _
    · exact ih restClear restIndependent later

/-- Writing what is there changes nothing. -/
theorem putAll_of_reach (allClear : ∀ path ∈ paths, Clear path current)
    (there : ∀ path ∈ paths, reach path current = value path) :
    putAll value paths current = current := by
  induction paths with
  | nil => rfl
  | cons head rest ih =>
    rw [putAll_cons, ← there head List.mem_cons_self,
      put_reach (allClear head List.mem_cons_self)]
    exact ih (fun path member => allClear path (List.mem_cons_of_mem _ member))
      fun path member => there path (List.mem_cons_of_mem _ member)

theorem putAll_put_comm {path : List String} {written : Option Json} (clear : Clear path current)
    (allClear : ∀ other ∈ paths, Clear other current) (independent : paths.Pairwise Independent)
    (apart : ∀ other ∈ paths, Independent path other) :
    putAll value paths (put written path current) =
      put written path (putAll value paths current) := by
  induction paths generalizing current with
  | nil => rfl
  | cons head rest ih =>
    have headClear := allClear head List.mem_cons_self
    have headApart := apart head List.mem_cons_self
    rw [putAll_cons, putAll_cons, put_comm clear headClear headApart]
    exact ih (clear.put headClear (Or.inr headApart) _)
      (clear_put_of_pairwise allClear independent _) (List.pairwise_cons.mp independent).2
      fun other member => apart other (List.mem_cons_of_mem _ member)

/-- Writing to the same paths again replaces what was written before, if the parents of what was
written before were there. -/
theorem putAll_putAll {first second : List String → Option Json}
    (allClear : ∀ path ∈ paths, Clear path current) (independent : paths.Pairwise Independent)
    (parents : ∀ path ∈ paths, (first path).isSome → Open path current) :
    putAll second paths (putAll first paths current) = putAll second paths current := by
  induction paths generalizing current with
  | nil => rfl
  | cons head rest ih =>
    have headClear := allClear head List.mem_cons_self
    obtain ⟨apart, restIndependent⟩ := List.pairwise_cons.mp independent
    have restClear := clear_put_of_pairwise allClear independent
    -- The second write at the head moves in front of the first writes at the rest.
    calc putAll second (head :: rest) (putAll first (head :: rest) current)
        = putAll second rest (put (second head) head
            (putAll first rest (put (first head) head current))) := rfl
      _ = putAll second rest (putAll first rest
            (put (second head) head (put (first head) head current))) := by
          rw [putAll_put_comm (headClear.put headClear (Or.inl rfl) _) (restClear _)
            restIndependent apart]
      _ = putAll second rest (putAll first rest (put (second head) head current)) := by
          rw [put_put headClear.passable fun isSome =>
            Or.inr (parents head List.mem_cons_self isSome)]
      _ = putAll second rest (put (second head) head current) := by
          apply ih (restClear _) restIndependent
          intro path member isSome
          exact (parents path (List.mem_cons_of_mem _ member) isSome).put
            (independent_head independent member) _
      _ = putAll second (head :: rest) current := rfl

/-- Writing the same values twice is writing them once. -/
theorem putAll_idem (allClear : ∀ path ∈ paths, Clear path current)
    (independent : paths.Pairwise Independent) :
    putAll value paths (putAll value paths current) = putAll value paths current := by
  refine putAll_of_reach (fun path member => ?_) fun path member =>
    reach_putAll allClear independent member
  exact (allClear path member).putAll allClear independent fun other =>
    eq_or_independent_of_mem independent member

end Json

end Caretaker
