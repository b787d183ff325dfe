import KszDriver.Device.EntryPoints

/-
  Requests are conserved: none is ever in two lists, none is
  in a list after it was terminated, and none is terminated
  twice without a submission in between.

  Main declarations:
    * `count_back_ledger`
    * `Driver.RequestsConserved`
    * `requestsConserved_of_reach`
-/

------------------------------------------------------------
-- The Ledger of a History
------------------------------------------------------------

namespace KszDriver

theorem ledger_append (newer older : List Event) :
    ledger (newer ++ older) = ledger newer ++ ledger older :=
  List.filterMap_append

/- The terminations of a request are its returns. -/
theorem count_back_ledger (ios2 : APTR) (log : List Event) :
    (ledger log).count (.back ios2) =
      (terminations ios2 log).length := by
  induction log with
  | nil => rfl
  | cons event log ih =>
      cases event with
      | terminated other req =>
          have hLedger :
              ledger (.terminated other req :: log) =
                .back other :: ledger log := rfl
          rw [hLedger, List.count_cons, ih,
            Driver.terminations_terminated]
          by_cases hSame : other = ios2
          · simp [hSame]
          · simp [hSame]
      | submitted other =>
          have hLedger :
              ledger (.submitted other :: log) =
                .taken other :: ledger log := rfl
          rw [hLedger, List.count_cons, ih]
          rfl
      | _ => exact ih

theorem taken_mem_ledger
    {ios2 : APTR}
    {log : List Event}
    (hMem : Ledger.Entry.taken ios2 ∈ ledger log) :
    Event.submitted ios2 ∈ log := by
  rcases List.mem_filterMap.mp hMem with ⟨event, hIn, hEntry⟩
  cases event with
  | submitted other =>
      have hSame : other = ios2 := by
        simpa [Event.entry] using hEntry
      exact hSame ▸ hIn
  | _ => simp [Event.entry] at hEntry

/- A request that ended and was not submitted again is not
   outstanding. -/
theorem not_outstanding_of_terminated
    {ios2 : APTR}
    {req : IOSana2Req}
    {newer older : List Event}
    (hNotSubmitted : Event.submitted ios2 ∉ newer) :
    ¬ Outstanding ios2
      (newer ++ .terminated ios2 req :: older) := by
  intro hDue
  have hOut :
      Ledger.IsOut ios2
        ((ledger newer ++ [.back ios2]) ++ ledger older) := by
    rw [Outstanding, ledger_append] at hDue
    rw [List.append_assoc]
    exact hDue
  have hNotTaken :
      Ledger.Entry.taken ios2 ∉
        ledger newer ++ [.back ios2] := by
    rw [List.mem_append, not_or]
    refine ⟨?_, by simp⟩
    intro hMem
    exact hNotSubmitted (taken_mem_ledger hMem)
  have hNone := Ledger.count_back_eq_zero hNotTaken hOut
  simp at hNone

------------------------------------------------------------
-- Conservation
------------------------------------------------------------

/- The requests of the driver are conserved. -/
structure Driver.RequestsConserved (s : Driver) : Prop where
  once : ∀ head, (s.lists head).Nodup
  apart : ∀ head head' ios2,
    ios2 ∈ s.lists head → ios2 ∈ s.lists head' →
      head = head'
  gone : ∀ ios2 req newer older,
    s.log = newer ++ .terminated ios2 req :: older →
      Event.submitted ios2 ∉ newer →
        ∀ head, ios2 ∉ s.lists head
  single : ∀ ios2 newer older,
    s.log = newer ++ older → Event.submitted ios2 ∉ newer →
      (terminations ios2 newer).length ≤ 1

/- Nothing is asked of the requests that wait. -/
def custodyPolicy : Policy where
  place := fun _ _ _ => True
  waits := fun _ _ => True
  lost := fun _ => True
  waits_calm := fun _ _ _ => trivial

theorem custodyPolicy_admits (s : Driver) (ios2 : APTR) :
    custodyPolicy.Admits s ios2 where
  write := fun _ _ _ => trivial
  read := fun _ _ _ => ⟨trivial, trivial⟩
  orphan := fun _ _ => ⟨trivial, trivial⟩
  event := fun _ => ⟨trivial, trivial⟩

theorem custodyPolicy_meets (s : Driver) (op : Op) :
    custodyPolicy.Meets s op := by
  cases op with
  | openDevice ios2 s2unit s2flags env =>
      exact ⟨fun _ _ _ _ => trivial, fun _ _ _ => trivial⟩
  | beginIo ios2 o =>
      exact ⟨fun _ => custodyPolicy_admits s ios2,
        fun _ => ⟨trivial, trivial⟩⟩
  | serviceMsgPort o =>
      exact fun r _ => custodyPolicy_admits s r
  | _ => trivial

/- In every run, every request is in custody. -/
theorem conserved_of_reach
    {s : Driver}
    (hReach : deviceMachine.Reach Machine.Free s) :
    s.Conserved custodyPolicy [] :=
  hReach.invariant
    (fun _ hStart =>
      Driver.Start.conserved hStart custodyPolicy)
    (fun s op hAllowed _ hCon =>
      hCon.next hAllowed (custodyPolicy_meets s op))

theorem Driver.Conserved.requestsConserved
    {P : Policy}
    {s : Driver}
    (hCon : s.Conserved P []) :
    s.RequestsConserved where
  once := hCon.once
  apart := hCon.apart
  gone := by
    intro ios2 req newer older hLog hNotSubmitted head hMem
    have hDue := hCon.outstanding hMem
    rw [hLog] at hDue
    exact not_outstanding_of_terminated hNotSubmitted hDue
  single := by
    intro ios2 newer older hLog hNotSubmitted
    have hBalanced := hCon.balanced
    rw [hLog, ledger_append] at hBalanced
    rw [← count_back_ledger]
    exact hBalanced.count_back_le_one (fun hMem =>
      hNotSubmitted (taken_mem_ledger hMem))

theorem requestsConserved_of_reach
    {s : Driver}
    (hReach : deviceMachine.Reach Machine.Free s) :
    s.RequestsConserved :=
  (conserved_of_reach hReach).requestsConserved

/- A request that waits for an event, which then happens. -/
def waitForEvent : List Op :=
  [.openDevice 7 0#32 0#32 (plainOpen 40),
    .clientWrite 8
      { plainRequest s2OnEvent with wireError := s2eventTx },
    .beginIo 8 plainOutcome, .serviceMsgPort plainOutcome,
    .doEvent s2eventTx]

theorem requestsConserved_waitForEvent :
    (deviceMachine.run waitForEvent
      (loadedDriver (idleRegisters 0x1800#16))
        ).RequestsConserved :=
  requestsConserved_of_reach
    (Machine.reach_run _
      (Machine.Reach.start (start_loadedDriver _))
      (by decide +kernel))

end KszDriver
