import KszDriver.Core.Machine
import Mathlib.Data.List.Basic

/-
  A server that sleeps until it is rung for, notes who rang,
  and looks after its sources one after the other.

  A source that posts a job rings.  When the server wakes, it
  takes note of every bell that has rung, and perhaps of some
  that have not, and silences them all.  Jobs of the source
  `queue` are taken one by one until none is left, jobs of
  the others all at once.  Meanwhile the sources go on.

  Key definitions include:
    * `Attendant`, `Attendant.Input`
    * `attendantMachine`
    * `Attendant.Attends`
    * `Attendant.distance`

  Key theorems include:
    * `Attendant.attends_of_reach`
    * `Attendant.Attends.nothing_due`
    * `Attendant.lt_taken_of_distance`
    * `Attendant.nearer_serve`
-/

------------------------------------------------------------
-- The Server
------------------------------------------------------------

/-
  The jobs that were posted and not yet taken, the bells that
  have rung, and how many jobs of the queue were taken.
  `ahead` are the sources that the server will look at before
  it sleeps again, and whether it noted their bell.
-/
@[ext]
structure Attendant (ν κ : Type) where
  due : ν → List κ
  ringing : ν → Bool
  taken : Nat
  ahead : List (ν × Bool)
  gone : Bool

namespace Attendant

/- What the sources do, and the steps of the server. -/
inductive Input (ν κ : Type) where
| post (x : ν) (job : κ)
| ring (x : ν)
| withdraw (x : ν)
| serve (woken : Bool) (noted : ν → Bool)
| leave

section Definitions

variable {ν κ : Type} [DecidableEq ν]
variable (order : List ν) (queue : ν)

/- The server wakes. -/
def wake
    (noted : ν → Bool) (a : Attendant ν κ) : Attendant ν κ :=
  { a with
    ringing := fun _ => false
    ahead := order.map (fun x => (x, noted x)) }

/- It has looked at a source whose bell it had noted. -/
def look
    (x : ν)
    (ahead : List (ν × Bool))
    (a : Attendant ν κ) : Attendant ν κ :=
  if x = queue ∧ a.due x ≠ [] then
    { a with
      due := Function.update a.due x (a.due x).tail
      taken := a.taken + 1 }
  else
    { a with
      due := Function.update a.due x []
      ahead := ahead }

/- A step of the server.  It sleeps on if nothing wakes it. -/
def serve
    (woken : Bool)
    (noted : ν → Bool)
    (a : Attendant ν κ) : Attendant ν κ :=
  if a.gone then a
  else
    match a.ahead with
    | [] => if woken then a.wake order noted else a
    | (_, false) :: ahead => { a with ahead := ahead }
    | (x, true) :: ahead => a.look queue x ahead

def next (a : Attendant ν κ) : Input ν κ → Attendant ν κ
| .post x job =>
    { a with
      due := Function.update a.due x (a.due x ++ [job])
      ringing := Function.update a.ringing x true }
| .ring x =>
    { a with ringing := Function.update a.ringing x true }
| .withdraw x =>
    { a with
      due := Function.update a.due x []
      ringing := Function.update a.ringing x false }
| .serve woken noted => serve order queue woken noted a
| .leave =>
    { a with
      ringing := fun _ => false
      ahead := []
      gone := true }

/-
  Every bell wakes the server, which notes all that ring.
  Jobs of the queue are not withdrawn.
-/
def Allowed (a : Attendant ν κ) : Input ν κ → Prop
| .serve woken noted =>
    a.ahead = [] → ∀ x, a.ringing x = true →
      woken = true ∧ noted x = true
| .withdraw x => x ≠ queue
| _ => True

end Definitions

end Attendant

/- All runs of the server. -/
def attendantMachine
    {ν κ : Type} [DecidableEq ν]
    (order : List ν)
    (queue : ν) :
    Machine (Attendant ν κ) (Attendant.Input ν κ) where
  Start := fun a => a.ahead = [] ∧ ∀ x, a.due x = []
  Allowed := Attendant.Allowed queue
  next := Attendant.next order queue

namespace Attendant

variable {ν κ : Type} [DecidableEq ν]
variable {order : List ν} {queue : ν}
variable {a : Attendant ν κ}

/- The sources post and ring as they like. -/
theorem runs_sources
    {C : Attendant ν κ → Input ν κ → Prop}
    (inputs : List (Input ν κ))
    (hSources : ∀ input ∈ inputs,
      (∃ x job, input = .post x job) ∨ ∃ x, input = .ring x)
    (hGuard : ∀ a input, input ≠ .leave → C a input)
    (a : Attendant ν κ) :
    (attendantMachine order queue).Runs C inputs a := by
  induction inputs generalizing a with
  | nil => trivial
  | cons input inputs ih =>
      refine ⟨?_, ih (fun other hIn =>
        hSources other (List.mem_cons_of_mem input hIn)) _⟩
      rcases hSources input List.mem_cons_self with
        ⟨x, job, rfl⟩ | ⟨x, rfl⟩
      · exact ⟨trivial, hGuard a _ nofun⟩
      · exact ⟨trivial, hGuard a _ nofun⟩

section Serve

variable {noted : ν → Bool} {woken : Bool} {x : ν}
variable {ahead : List (ν × Bool)}

theorem serve_of_gone (hGone : a.gone = true) :
    a.serve order queue woken noted = a := by
  unfold serve
  rw [if_pos hGone]

theorem serve_asleep
    (hStays : a.gone = false)
    (hAsleep : a.ahead = []) :
    a.serve order queue woken noted =
      if woken then a.wake order noted else a := by
  unfold serve
  rw [if_neg (by rw [hStays]; exact Bool.false_ne_true),
    hAsleep]

theorem serve_skip
    (hStays : a.gone = false)
    (hAhead : a.ahead = (x, false) :: ahead) :
    a.serve order queue woken noted =
      { a with ahead := ahead } := by
  unfold serve
  rw [if_neg (by rw [hStays]; exact Bool.false_ne_true),
    hAhead]

theorem serve_look
    (hStays : a.gone = false)
    (hAhead : a.ahead = (x, true) :: ahead) :
    a.serve order queue woken noted =
      a.look queue x ahead := by
  unfold serve
  rw [if_neg (by rw [hStays]; exact Bool.false_ne_true),
    hAhead]

end Serve

/- Bells that ring one after the other. -/
theorem run_ring
    (xs : List ν) (a : Attendant ν κ) :
    (attendantMachine order queue).run (xs.map .ring) a =
      { a with
        ringing := fun x => a.ringing x || decide (x ∈ xs) } := by
  induction xs generalizing a with
  | nil => simp [Machine.run]
  | cons x xs ih =>
      rw [List.map_cons, Machine.run, ih]
      apply Attendant.ext
      · rfl
      · funext y
        change (Function.update a.ringing x true y ||
          decide (y ∈ xs)) = _
        by_cases hSame : y = x
        · rw [hSame, Function.update_self]
          simp
        · rw [Function.update_of_ne hSame]
          simp [hSame]
      · rfl
      · rfl
      · rfl

------------------------------------------------------------
-- Nothing Is Overlooked
------------------------------------------------------------

/- Whoever has a job due has rung, or the server has noted
   it and still comes to it. -/
def Attends (order : List ν) (a : Attendant ν κ) : Prop :=
  a.gone = false → ∀ x ∈ order, a.due x ≠ [] →
    a.ringing x = true ∨ (x, true) ∈ a.ahead

omit [DecidableEq ν] in
theorem Attends.wake
    {noted : ν → Bool}
    (hAttends : a.Attends order)
    (hAsleep : a.ahead = [])
    (hNotes : ∀ x, a.ringing x = true → noted x = true) :
    (a.wake order noted).Attends order := by
  intro hStays x hSource hDue
  right
  rcases hAttends hStays x hSource hDue with hRings | hAhead
  · exact List.mem_map.mpr
      ⟨x, hSource, Prod.ext rfl (hNotes x hRings)⟩
  · rw [hAsleep] at hAhead
    exact absurd hAhead List.not_mem_nil

/- A bell that was not noted may have rung since. -/
omit [DecidableEq ν] in
theorem Attends.skip
    {x : ν}
    {ahead : List (ν × Bool)}
    (hAttends : a.Attends order)
    (hAhead : a.ahead = (x, false) :: ahead) :
    ({ a with ahead := ahead } : Attendant ν κ).Attends
      order := by
  intro hStays y hSource hDue
  rcases hAttends hStays y hSource hDue with hRings | hIn
  · exact Or.inl hRings
  · rw [hAhead] at hIn
    rcases List.mem_cons.mp hIn with hHead | hTail
    · cases hHead
    · exact Or.inr hTail

theorem Attends.look
    {x : ν}
    {ahead : List (ν × Bool)}
    (hAttends : a.Attends order)
    (hAhead : a.ahead = (x, true) :: ahead) :
    (a.look queue x ahead).Attends order := by
  unfold Attendant.look
  split
  · intro hStays y hSource hDue
    by_cases hSame : y = x
    · right
      dsimp only
      rw [hAhead, hSame]
      exact List.mem_cons_self
    · dsimp only at hDue
      rw [Function.update_of_ne hSame] at hDue
      exact hAttends hStays y hSource hDue
  · intro hStays y hSource hDue
    have hOther : y ≠ x := by
      rintro rfl
      exact hDue (Function.update_self y [] a.due)
    dsimp only at hDue
    rw [Function.update_of_ne hOther] at hDue
    rcases hAttends hStays y hSource hDue with hRings | hIn
    · exact Or.inl hRings
    · rw [hAhead] at hIn
      rcases List.mem_cons.mp hIn with hHead | hTail
      · exact absurd (congrArg Prod.fst hHead) hOther
      · exact Or.inr hTail

theorem Attends.serve
    {woken : Bool}
    {noted : ν → Bool}
    (hAttends : a.Attends order)
    (hAllowed : a.Allowed queue (.serve woken noted)) :
    (a.serve order queue woken noted).Attends order := by
  unfold Attendant.serve
  split
  · exact hAttends
  · split
    · rename_i hAsleep
      split
      · exact hAttends.wake hAsleep
          (fun x hRings => (hAllowed hAsleep x hRings).2)
      · exact hAttends
    · rename_i hAhead
      exact hAttends.skip hAhead
    · rename_i hAhead
      exact hAttends.look hAhead

theorem Attends.next
    {input : Input ν κ}
    (hAttends : a.Attends order)
    (hAllowed : a.Allowed queue input) :
    (a.next order queue input).Attends order := by
  cases input with
  | post x job =>
      intro hStays y hSource hDue
      by_cases hSame : y = x
      · exact Or.inl (by
          rw [hSame]
          exact Function.update_self x true a.ringing)
      · change Function.update a.due x _ y ≠ [] at hDue
        rw [Function.update_of_ne hSame] at hDue
        have hOld := hAttends hStays y hSource hDue
        change Function.update a.ringing x true y = true ∨ _
        rwa [Function.update_of_ne hSame]
  | ring x =>
      intro hStays y hSource hDue
      have hOld := hAttends hStays y hSource hDue
      change Function.update a.ringing x true y = true ∨ _
      by_cases hSame : y = x
      · exact Or.inl (by rw [hSame, Function.update_self])
      · rwa [Function.update_of_ne hSame]
  | withdraw x =>
      intro hStays y hSource hDue
      change Function.update a.due x [] y ≠ [] at hDue
      have hOther : y ≠ x := by
        rintro rfl
        exact hDue (Function.update_self y [] a.due)
      rw [Function.update_of_ne hOther] at hDue
      have hOld := hAttends hStays y hSource hDue
      change Function.update a.ringing x false y = true ∨ _
      rwa [Function.update_of_ne hOther]
  | serve woken noted => exact hAttends.serve hAllowed
  | leave => exact fun hStays => nomatch hStays

theorem attends_of_reach
    (hReach :
      (attendantMachine order queue).Reach Machine.Free a) :
    a.Attends order := by
  apply hReach.invariant
  · intro a hStart _ x _ hDue
    exact absurd (hStart.2 x) hDue
  · intro a input hAllowed _ hAttends
    exact hAttends.next hAllowed

/- When the server sleeps and no bell rings, nothing is due. -/
omit [DecidableEq ν] in
theorem Attends.nothing_due
    (hAttends : a.Attends order)
    (hStays : a.gone = false)
    (hAsleep : a.ahead = [])
    (hSilent : ∀ x ∈ order, a.ringing x = false) :
    ∀ x ∈ order, a.due x = [] := by
  intro x hSource
  by_contra hDue
  rcases hAttends hStays x hSource hDue with hRings | hAhead
  · rw [hSilent x hSource] at hRings
    cases hRings
  · rw [hAsleep] at hAhead
    exact absurd hAhead List.not_mem_nil

------------------------------------------------------------
-- Nobody Waits for Ever
------------------------------------------------------------

/- The job of the queue with this number, counted from the
   first job ever taken, has not been taken. -/
def Waits (queue : ν) (job : Nat) (a : Attendant ν κ) :
    Prop :=
  a.taken ≤ job ∧ job < a.taken + (a.due queue).length

/- How many sources the server looks at before the queue, as
   far as it has noted that it is to. -/
def sourcesBefore
    (order : List ν) (queue : ν) (a : Attendant ν κ) : Nat :=
  if (queue, true) ∈ a.ahead then a.ahead.idxOf (queue, true)
  else a.ahead.length + 1 + order.idxOf queue

/- A bound on the steps until the job is taken. -/
def distance
    (order : List ν)
    (queue : ν)
    (job : Nat)
    (a : Attendant ν κ) : Nat :=
  a.sourcesBefore order queue + (job - a.taken) + 1

/- The queue stands where it did in the order. -/
theorem idxOf_noted
    {noted : ν → Bool}
    (hNoted : noted queue = true) :
    (order.map (fun x => (x, noted x))).idxOf (queue, true) =
      order.idxOf queue := by
  induction order with
  | nil => rfl
  | cons x order ih =>
      rw [List.map_cons]
      by_cases hSame : x = queue
      · rw [hSame, hNoted, List.idxOf_cons_self,
          List.idxOf_cons_self]
      · have hOther : (x, noted x) ≠ (queue, true) :=
          fun hBoth => hSame (congrArg Prod.fst hBoth)
        rw [List.idxOf_cons_ne _ hOther,
          List.idxOf_cons_ne _ hSame, ih]

/- The server comes one source nearer to the queue. -/
theorem sourcesBefore_of_cons
    (order : List ν)
    {x : ν × Bool}
    {ahead : List (ν × Bool)}
    {a a' : Attendant ν κ}
    (hAhead : a.ahead = x :: ahead)
    (hAhead' : a'.ahead = ahead)
    (hOther : x ≠ (queue, true)) :
    a'.sourcesBefore order queue + 1 =
      a.sourcesBefore order queue := by
  unfold sourcesBefore
  rw [hAhead, hAhead']
  by_cases hIn : (queue, true) ∈ ahead
  · rw [if_pos hIn, if_pos (List.mem_cons_of_mem x hIn),
      List.idxOf_cons_ne _ hOther]
  · have hNot : (queue, true) ∉ x :: ahead := by
      rw [List.mem_cons, not_or]
      exact ⟨Ne.symm hOther, hIn⟩
    rw [if_neg hIn, if_neg hNot, List.length_cons]
    omega

theorem sourcesBefore_wake
    {noted : ν → Bool}
    (hSource : queue ∈ order)
    (hAsleep : a.ahead = [])
    (hNoted : noted queue = true) :
    (a.wake order noted).sourcesBefore order queue + 1 =
      a.sourcesBefore order queue := by
  have hIn :
      (queue, true) ∈ (a.wake order noted).ahead :=
    List.mem_map.mpr ⟨queue, hSource, Prod.ext rfl hNoted⟩
  have hIndex :
      (a.wake order noted).ahead.idxOf (queue, true) =
        order.idxOf queue := idxOf_noted hNoted
  unfold sourcesBefore
  rw [if_pos hIn, hIndex, hAsleep,
    if_neg List.not_mem_nil, List.length_nil]
  omega

/- A job that waits is due. -/
omit [DecidableEq ν] in
theorem Waits.due
    {job : Nat}
    (hWaits : a.Waits queue job) :
    a.due queue ≠ [] := by
  intro hNone
  have hLeast := hWaits.1
  have hLess := hWaits.2
  rw [hNone, List.length_nil] at hLess
  omega

/- A job is taken from the queue, this one or another. -/
theorem Waits.look
    {job : Nat}
    {ahead : List (ν × Bool)}
    (hWaits : a.Waits queue job) :
    job < (a.look queue queue ahead).taken ∨
      (a.look queue queue ahead).Waits queue job ∧
        (a.look queue queue ahead).distance order queue job <
          a.distance order queue job := by
  have hLeast := hWaits.1
  have hLess := hWaits.2
  have hLength : (a.due queue).tail.length + 1 =
      (a.due queue).length := by
    have hSome := List.length_pos_of_ne_nil hWaits.due
    rw [List.length_tail]
    omega
  unfold Attendant.look Waits distance sourcesBefore
  rw [if_pos ⟨rfl, hWaits.due⟩]
  dsimp only
  rw [Function.update_self]
  omega

/- With each of its own steps the server comes nearer to a
   job that waits in the queue, or takes it. -/
theorem Waits.serve
    {woken : Bool}
    {noted : ν → Bool}
    {job : Nat}
    (hSource : queue ∈ order)
    (hAttends : a.Attends order)
    (hStays : a.gone = false)
    (hAllowed : a.Allowed queue (.serve woken noted))
    (hWaits : a.Waits queue job) :
    job < (a.serve order queue woken noted).taken ∨
      (a.serve order queue woken noted).Waits queue job ∧
        (a.serve order queue woken noted).distance order queue
            job < a.distance order queue job := by
  unfold Attendant.serve
  rw [if_neg (by simp [hStays])]
  split
  · rename_i hAsleep
    have hRings : a.ringing queue = true := by
      rcases hAttends hStays queue hSource hWaits.due with
        hIn | hIn
      · exact hIn
      · rw [hAsleep] at hIn
        exact absurd hIn List.not_mem_nil
    have hNotes := hAllowed hAsleep queue hRings
    have hNearer :=
      sourcesBefore_wake (κ := κ) hSource hAsleep hNotes.2
    rw [if_pos hNotes.1]
    refine Or.inr ⟨hWaits, ?_⟩
    change _ + (job - a.taken) + 1 < _ + (job - a.taken) + 1
    omega
  · rename_i x ahead hAhead
    have hOther : (x, false) ≠ (queue, true) := by simp
    have hNearer := sourcesBefore_of_cons order hAhead
      (rfl : ({ a with ahead := ahead } :
        Attendant ν κ).ahead = ahead) hOther
    refine Or.inr ⟨hWaits, ?_⟩
    change _ + (job - a.taken) + 1 < _ + (job - a.taken) + 1
    omega
  · rename_i x ahead hAhead
    by_cases hQueue : x = queue
    · subst hQueue
      exact hWaits.look
    · have hOther : (x, true) ≠ (queue, true) := by
        simp [hQueue]
      have hNearer := sourcesBefore_of_cons order hAhead
        (rfl : ({ a with
          due := Function.update a.due x []
          ahead := ahead } : Attendant ν κ).ahead = ahead)
        hOther
      unfold Attendant.look
      rw [if_neg (fun hBoth => hQueue hBoth.1)]
      refine Or.inr ⟨⟨hWaits.1, ?_⟩, ?_⟩
      · change job < a.taken +
          (Function.update a.due x [] queue).length
        rw [Function.update_of_ne (Ne.symm hQueue)]
        exact hWaits.2
      · change _ + (job - a.taken) + 1 <
          _ + (job - a.taken) + 1
        omega

/- The server does not leave. -/
def Remains (_ : Attendant ν κ) (input : Input ν κ) : Prop :=
  input ≠ .leave

/- It is a step of the server. -/
def Input.isServe : Input ν κ → Bool
| .serve _ _ => true
| _ => false

/- What the sources do keeps a job where it is. -/
theorem Waits.others
    (order : List ν)
    {job : Nat}
    {input : Input ν κ}
    (hWaits : a.Waits queue job)
    (hAllowed : a.Allowed queue input)
    (hRemains : a.Remains input)
    (hOther : input.isServe = false) :
    (a.next order queue input).Waits queue job ∧
      (a.next order queue input).distance order queue job =
        a.distance order queue job := by
  cases input with
  | post x job' =>
      refine ⟨⟨hWaits.1, ?_⟩, rfl⟩
      have hLess := hWaits.2
      change job < a.taken + (Function.update a.due x
        (a.due x ++ [job']) queue).length
      by_cases hSame : queue = x
      · rw [← hSame, Function.update_self, List.length_append]
        omega
      · rwa [Function.update_of_ne hSame]
  | ring x => exact ⟨hWaits, rfl⟩
  | withdraw x =>
      refine ⟨⟨hWaits.1, ?_⟩, rfl⟩
      change job < a.taken +
        (Function.update a.due x [] queue).length
      rw [Function.update_of_ne (Ne.symm hAllowed)]
      exact hWaits.2
  | serve woken noted => cases hOther
  | leave => exact absurd rfl hRemains

theorem taken_le_next
    (a : Attendant ν κ) (input : Input ν κ) :
    a.taken ≤ (a.next order queue input).taken := by
  cases input with
  | serve woken noted =>
      change a.taken ≤
        (a.serve order queue woken noted).taken
      unfold Attendant.serve
      split
      · exact Nat.le_refl _
      · split
        · split <;> exact Nat.le_refl _
        · exact Nat.le_refl _
        · unfold Attendant.look
          split
          · exact Nat.le_succ _
          · exact Nat.le_refl _
  | _ => exact Nat.le_refl _

theorem taken_le_run
    (inputs : List (Input ν κ)) (a : Attendant ν κ) :
    a.taken ≤
      ((attendantMachine order queue).run inputs a).taken := by
  induction inputs generalizing a with
  | nil => exact Nat.le_refl _
  | cons input inputs ih =>
      exact Nat.le_trans (taken_le_next a input) (ih _)

theorem gone_next
    (order : List ν)
    (queue : ν)
    {input : Input ν κ}
    (hStays : a.gone = false)
    (hRemains : a.Remains input) :
    (a.next order queue input).gone = false := by
  cases input with
  | serve woken noted =>
      change (a.serve order queue woken noted).gone = false
      unfold Attendant.serve
      split
      · exact hStays
      · split
        · split <;> exact hStays
        · exact hStays
        · unfold Attendant.look
          split <;> exact hStays
  | leave => exact absurd rfl hRemains
  | _ => exact hStays

theorem gone_run
    {inputs : List (Input ν κ)}
    (hStays : a.gone = false)
    (hRuns :
      (attendantMachine order queue).Runs Remains inputs a) :
    ((attendantMachine order queue).run inputs a).gone =
      false := by
  induction inputs generalizing a with
  | nil => exact hStays
  | cons input inputs ih =>
      exact ih (gone_next order queue hStays hRuns.1.2)
        hRuns.2

/-
  Whatever the sources do meanwhile, a job that waits in the
  queue is taken when the server has made as many steps of
  its own as the job is distant.
-/
theorem lt_taken_of_distance
    {job : Nat}
    {inputs : List (Input ν κ)}
    (hSource : queue ∈ order)
    (hAttends : a.Attends order)
    (hStays : a.gone = false)
    (hRuns :
      (attendantMachine order queue).Runs Remains inputs a)
    (hWaits : a.Waits queue job)
    (hSteps :
      a.distance order queue job ≤
        inputs.countP Input.isServe) :
    job <
      ((attendantMachine order queue).run inputs a).taken := by
  induction inputs generalizing a with
  | nil =>
      have hPositive : 0 < a.distance order queue job :=
        Nat.succ_pos _
      rw [List.countP_nil] at hSteps
      omega
  | cons input inputs ih =>
      rcases hRuns with ⟨⟨hAllowed, hRemains⟩, hRest⟩
      have hAttends' := hAttends.next hAllowed
      have hStays' :=
        gone_next order queue hStays hRemains
      cases hServes : input.isServe with
      | true =>
          cases input with
          | serve woken noted =>
              rcases hWaits.serve hSource hAttends hStays
                  hAllowed with hTaken | ⟨hWaits', hNearer⟩
              · exact Nat.lt_of_lt_of_le hTaken
                  (taken_le_run inputs _)
              · refine ih hAttends' hStays' hRest hWaits' ?_
                rw [List.countP_cons_of_pos hServes] at hSteps
                exact Nat.le_of_lt_succ
                  (Nat.lt_of_lt_of_le hNearer hSteps)
          | _ => cases hServes
      | false =>
          have hSame := hWaits.others order hAllowed
            hRemains hServes
          refine ih hAttends' hStays' hRest hSame.1 ?_
          rw [List.countP_cons_of_neg (by simp [hServes])]
            at hSteps
          exact hSame.2 ▸ hSteps

------------------------------------------------------------
-- No Source Is Passed Over
------------------------------------------------------------

section Sources

variable {x : ν}

/-
  While a source has jobs due and is not looked at, each step
  of the server brings it one source nearer, or takes a job
  from the queue.
-/
theorem nearer_serve
    {woken : Bool}
    {noted : ν → Bool}
    (hSource : x ∈ order)
    (hAttends : a.Attends order)
    (hStays : a.gone = false)
    (hAllowed : a.Allowed queue (.serve woken noted))
    (hDue : a.due x ≠ [])
    (hLeft : (a.serve order queue woken noted).due x ≠ []) :
    (a.serve order queue woken noted).sourcesBefore order x +
        1 + a.taken =
      a.sourcesBefore order x +
        (a.serve order queue woken noted).taken := by
  unfold Attendant.serve at hLeft ⊢
  rw [if_neg (by simp [hStays])] at hLeft ⊢
  split
  · rename_i hAsleep
    have hRings : a.ringing x = true := by
      rcases hAttends hStays x hSource hDue with hIn | hIn
      · exact hIn
      · rw [hAsleep] at hIn
        exact absurd hIn List.not_mem_nil
    have hNotes := hAllowed hAsleep x hRings
    rw [if_pos hNotes.1,
      sourcesBefore_wake hSource hAsleep hNotes.2]
    rfl
  · rename_i y ahead hAhead
    have hNearer := sourcesBefore_of_cons order hAhead
      (rfl : ({ a with ahead := ahead } :
        Attendant ν κ).ahead = ahead)
      (by simp : (y, false) ≠ (x, true))
    rw [hNearer]
  · rename_i y ahead hAhead
    rw [hAhead] at hLeft
    dsimp only at hLeft
    unfold Attendant.look at hLeft ⊢
    split
    · change a.sourcesBefore order x + 1 + a.taken =
        a.sourcesBefore order x + (a.taken + 1)
      omega
    · rename_i hEmpties
      rw [if_neg hEmpties] at hLeft
      have hOther : y ≠ x := by
        rintro rfl
        exact hLeft (Function.update_self y [] a.due)
      have hNearer := sourcesBefore_of_cons order hAhead
        (rfl : ({ a with
          due := Function.update a.due y []
          ahead := ahead } : Attendant ν κ).ahead = ahead)
        (by simp [hOther] : (y, true) ≠ (x, true))
      rw [hNearer]

/- The others keep the server where it is. -/
theorem sourcesBefore_others
    (inputs : List (Input ν κ))
    (hOthers : ∀ input ∈ inputs, input.isServe = false)
    (hRuns :
      (attendantMachine order queue).Runs Remains inputs a) :
    ((attendantMachine order queue).run inputs a).sourcesBefore
        order x = a.sourcesBefore order x ∧
      ((attendantMachine order queue).run inputs a).taken =
        a.taken := by
  induction inputs generalizing a with
  | nil => exact ⟨rfl, rfl⟩
  | cons input inputs ih =>
      rcases hRuns with ⟨⟨-, hRemains⟩, hRest⟩
      have hLater := ih (fun other hIn =>
        hOthers other (List.mem_cons_of_mem input hIn)) hRest
      refine ⟨hLater.1.trans ?_, hLater.2.trans ?_⟩
      all_goals
        cases input with
        | serve woken noted =>
            exact nomatch hOthers _ List.mem_cons_self
        | leave => exact absurd rfl hRemains
        | _ => rfl

end Sources

end Attendant
