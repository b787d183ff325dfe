import KszDriver.Device.Lists

/-
  The custody of requests: a request that was submitted is
  held by the handler that works on it or waits in exactly
  one list, until it is terminated.

  A policy says what must be true of the requests that wait;
  it may speak about the part of a request that no handler
  changes while the request waits.

  Main declarations:
    * `Core`, `Policy`
    * `Driver.Conserved`
    * `Conserved.submit`, `Conserved.addTail`,
      `Conserved.remove`, `Conserved.termIo`
-/

------------------------------------------------------------
-- Policies
------------------------------------------------------------

namespace KszDriver

/- The part of a request that stays while it waits. -/
structure Core where
  ioCommand : UWORD
  bufferManagement : APTR
  mnReplyPort : APTR
  quick : Prop

def IOSana2Req.core (req : IOSana2Req) : Core where
  ioCommand := req.ioCommand
  bufferManagement := req.bufferManagement
  mnReplyPort := req.mnReplyPort
  quick := req.Quick

/- The core of a request whose quick bit was cleared. -/
def Core.calm (c : Core) : Core :=
  { c with quick := False }

/-
  What holds of a request in a list, what holds of a request
  from when it is queued until it is terminated, and which
  requests may be lost from sight.
-/
structure Policy where
  place : ListHead → APTR → Core → Prop
  waits : APTR → Core → Prop
  lost : APTR → Prop
  waits_calm : ∀ ios2 c, waits ios2 c → waits ios2 c.calm

/-
  While the transmit queue is drained it holds a request,
  whatever the policy says of that queue.
-/
def Policy.sending (P : Policy) : Policy :=
  { P with
    place := fun head ios2 c =>
      head = .euTx ∨ P.place head ios2 c }

------------------------------------------------------------
-- Clearing the Quick Bit
------------------------------------------------------------

/- `io_Flags &= ~IOF_QUICK` -/
theorem calm_flags (flags : UBYTE) :
    (flags &&& ~~~iofQuick) &&& iofQuick = 0#8 := by
  revert flags
  decide +kernel

/- The core of a message whose quick bit is cleared. -/
theorem core_clearQuick (req : IOSana2Req) :
    ({ req with
        ioFlags := req.ioFlags &&& ~~~iofQuick
        lnType := ntMessage } : IOSana2Req).core =
      req.core.calm := by
  simp [IOSana2Req.core, IOSana2Req.Quick, Core.calm,
    calm_flags]

/- Setting other flags leaves the quick bit. -/
theorem quick_or_castFlag (flags : UBYTE) (addr : MacAddr) :
    (flags ||| castFlag addr) &&& iofQuick =
      flags &&& iofQuick := by
  have hCast :
      castFlag addr = 0#8 ∨ castFlag addr = sana2IofBcast ∨
        castFlag addr = sana2IofMcast := by
    unfold castFlag
    split
    · split
      · exact Or.inr (Or.inl rfl)
      · exact Or.inr (Or.inr rfl)
    · exact Or.inl rfl
  rcases hCast with h | h | h
  all_goals
    rw [h]
    revert flags
    decide +kernel

theorem core_describePacket
    (buffer : Memory) (size : UWORD) (req : IOSana2Req) :
    (describePacket buffer size req).core = req.core := by
  simp [IOSana2Req.core, describePacket, IOSana2Req.Quick,
    quick_or_castFlag]

------------------------------------------------------------
-- The Invariant
------------------------------------------------------------

/- Events that concern neither ledger nor queues. -/
def Event.Neutral : Event → Prop
| .submitted _ | .queued _ _ | .terminated _ _ => False
| _ => True

namespace Driver

/- Every termination of a waiting request met the policy. -/
def Ended (waits : APTR → Core → Prop) : List Event → Prop
| [] => True
| .terminated ios2 req :: log =>
    (Queued ios2 log → waits ios2 req.core) ∧ Ended waits log
| _ :: log => Ended waits log

theorem Ended.mono
    {waits waits' : APTR → Core → Prop}
    {log : List Event}
    (hEnded : Ended waits log)
    (hWaits : ∀ ios2 c, waits ios2 c → waits' ios2 c) :
    Ended waits' log := by
  induction log with
  | nil => trivial
  | cons event log ih =>
      cases event with
      | terminated ios2 req =>
          exact ⟨fun hQueued => hWaits _ _ (hEnded.1 hQueued),
            ih hEnded.2⟩
      | _ => exact ih hEnded

/-
  The requests in `held` are worked on; all others that were
  submitted and not terminated wait in one list.
-/
structure Conserved
    (P : Policy) (held : List APTR) (s : Driver) : Prop
    extends s.Linked where
  heldOnce : held.Nodup
  heldApart : ∀ ios2 ∈ held, ∀ head, ios2 ∉ s.lists head
  queued : ∀ head, ∀ ios2 ∈ s.lists head, Queued ios2 s.log
  owed : ∀ ios2 ∈ held, Outstanding ios2 s.log
  pending : ∀ ios2, Queued ios2 s.log →
    Outstanding ios2 s.log
  parked : ∀ ios2, Outstanding ios2 s.log →
    ios2 ∈ held ∨ Queued ios2 s.log
  found : ∀ ios2, Outstanding ios2 s.log →
    P.lost ios2 ∨ ios2 ∈ held ∨ ∃ head, ios2 ∈ s.lists head
  balanced : Ledger.Balanced (ledger s.log)
  placed : ∀ head, ∀ ios2 ∈ s.lists head,
    P.place head ios2 (s.reqs ios2).core
  waiting : ∀ ios2, Queued ios2 s.log →
    P.waits ios2 (s.reqs ios2).core
  ended : Ended P.waits s.log

namespace Conserved

variable {P : Policy} {held : List APTR} {s s' : Driver}
variable {ios2 : APTR}

theorem outstanding
    {head : ListHead}
    (hCon : s.Conserved P held)
    (hMem : ios2 ∈ s.lists head) :
    Outstanding ios2 s.log :=
  hCon.pending ios2 (hCon.queued head ios2 hMem)

/- Only lists, history and cores matter. -/
theorem congr
    (hCon : s.Conserved P held)
    (hLists : s'.lists = s.lists)
    (hLog : s'.log = s.log)
    (hCore : ∀ r, (s'.reqs r).core = (s.reqs r).core) :
    s'.Conserved P held where
  toLinked := hCon.toLinked.congr hLists
  heldOnce := hCon.heldOnce
  heldApart := by
    rw [hLists]
    exact hCon.heldApart
  queued := by
    rw [hLists, hLog]
    exact hCon.queued
  owed := by
    rw [hLog]
    exact hCon.owed
  pending := by
    rw [hLog]
    exact hCon.pending
  parked := by
    rw [hLog]
    exact hCon.parked
  found := by
    rw [hLists, hLog]
    exact hCon.found
  balanced := by
    rw [hLog]
    exact hCon.balanced
  placed := by
    intro head r hMem
    rw [hLists] at hMem
    rw [hCore]
    exact hCon.placed head r hMem
  waiting := by
    intro r hQueued
    rw [hLog] at hQueued
    rw [hCore]
    exact hCon.waiting r hQueued
  ended := by
    rw [hLog]
    exact hCon.ended

/- The same requests under another policy. -/
theorem change
    {P' : Policy}
    (hCon : s.Conserved P held)
    (hPlace : ∀ head, ∀ r ∈ s.lists head,
      P'.place head r (s.reqs r).core)
    (hWaits : ∀ r c, P.waits r c → P'.waits r c)
    (hLost : ∀ r, Outstanding r s.log →
      P.lost r → P'.lost r) :
    s.Conserved P' held where
  toLinked := hCon.toLinked
  heldOnce := hCon.heldOnce
  heldApart := hCon.heldApart
  queued := hCon.queued
  owed := hCon.owed
  pending := hCon.pending
  parked := hCon.parked
  found := fun r hDue =>
    (hCon.found r hDue).imp (hLost r hDue) id
  balanced := hCon.balanced
  placed := hPlace
  waiting := fun r hQueued =>
    hWaits r _ (hCon.waiting r hQueued)
  ended := hCon.ended.mono hWaits

/- A change that keeps the core of a request. -/
theorem setReq_of_core
    (hCon : s.Conserved P held)
    (ios2 : APTR)
    (f : IOSana2Req → IOSana2Req)
    (hCore : (f (s.reqs ios2)).core = (s.reqs ios2).core) :
    (s.setReq ios2 f).Conserved P held := by
  apply hCon.congr (lists_setReq s ios2 f)
    (log_setReq s ios2 f)
  intro r
  rw [reqs_setReq]
  by_cases hSame : r = ios2
  · rw [if_pos hSame, hSame, hCore]
  · rw [if_neg hSame]

/- A request in nobody's list may be changed freely as far as
   the policy goes. -/
theorem setReq_of_not_mem
    (hCon : s.Conserved P held)
    (f : IOSana2Req → IOSana2Req)
    (hFree : ∀ head, ios2 ∉ s.lists head)
    (hWaits : Queued ios2 s.log →
      P.waits ios2 (f (s.reqs ios2)).core) :
    (s.setReq ios2 f).Conserved P held where
  toLinked := hCon.toLinked.congr rfl
  heldOnce := hCon.heldOnce
  heldApart := hCon.heldApart
  queued := hCon.queued
  owed := hCon.owed
  pending := hCon.pending
  parked := hCon.parked
  found := hCon.found
  balanced := hCon.balanced
  placed := by
    intro head r hMem
    have hOther : r ≠ ios2 := by
      rintro rfl
      exact hFree head hMem
    rw [reqs_setReq, if_neg hOther]
    exact hCon.placed head r hMem
  waiting := by
    intro r hQueued
    rw [reqs_setReq]
    by_cases hSame : r = ios2
    · subst hSame
      rw [if_pos rfl]
      exact hWaits hQueued
    · rw [if_neg hSame]
      exact hCon.waiting r hQueued
  ended := hCon.ended

/- Clearing the quick bit of a request that is held. -/
theorem setReq_calm
    (hCon : s.Conserved P (ios2 :: held))
    (f : IOSana2Req → IOSana2Req)
    (hCore :
      (f (s.reqs ios2)).core = (s.reqs ios2).core.calm) :
    (s.setReq ios2 f).Conserved P (ios2 :: held) := by
  apply hCon.setReq_of_not_mem f
    (hCon.heldApart ios2 List.mem_cons_self)
  intro hQueued
  rw [hCore]
  exact P.waits_calm _ _ (hCon.waiting ios2 hQueued)

/- Neutral events change nothing. -/
theorem record
    {event : Event}
    (hCon : s.Conserved P held)
    (hNeutral : event.Neutral) :
    (s.record event).Conserved P held := by
  have hLedger : ledger (event :: s.log) = ledger s.log := by
    cases event <;> first | exact hNeutral.elim | rfl
  have hQueued :
      ∀ r, Queued r (event :: s.log) ↔ Queued r s.log := by
    intro r
    cases event <;>
      first | exact hNeutral.elim | exact Iff.rfl
  have hEnded :
      Ended P.waits (event :: s.log) ↔
        Ended P.waits s.log := by
    cases event <;>
      first | exact hNeutral.elim | exact Iff.rfl
  have hOut :
      ∀ r, Outstanding r (event :: s.log) ↔
        Outstanding r s.log := by
    intro r
    unfold Outstanding
    rw [hLedger]
  exact
    { toLinked := hCon.toLinked.congr rfl
      heldOnce := hCon.heldOnce
      heldApart := hCon.heldApart
      queued := fun head r hMem =>
        (hQueued r).mpr (hCon.queued head r hMem)
      owed := fun r hMem =>
        (hOut r).mpr (hCon.owed r hMem)
      pending := fun r hWaiting =>
        (hOut r).mpr (hCon.pending r ((hQueued r).mp hWaiting))
      parked := fun r hDue =>
        (hCon.parked r ((hOut r).mp hDue)).imp id (hQueued r).mpr
      found := fun r hDue => hCon.found r ((hOut r).mp hDue)
      balanced := by
        rw [log_record, hLedger]
        exact hCon.balanced
      placed := hCon.placed
      waiting := fun r hWaiting =>
        hCon.waiting r ((hQueued r).mp hWaiting)
      ended := hEnded.mpr hCon.ended }

/- The order of the requests that are held is of no account. -/
theorem perm
    {held' : List APTR}
    (hCon : s.Conserved P held)
    (hPerm : held.Perm held') :
    s.Conserved P held' :=
  { hCon with
    heldOnce := hPerm.nodup_iff.mp hCon.heldOnce
    heldApart := fun r hMem =>
      hCon.heldApart r (hPerm.mem_iff.mpr hMem)
    owed := fun r hMem =>
      hCon.owed r (hPerm.mem_iff.mpr hMem)
    parked := fun r hDue =>
      (hCon.parked r hDue).imp hPerm.mem_iff.mp id
    found := fun r hDue =>
      (hCon.found r hDue).imp id
        (fun hRest => hRest.imp hPerm.mem_iff.mp id) }

/- A client submits a request that it owns. -/
theorem submit
    (hCon : s.Conserved P held)
    (hOwned : s.Owned ios2) :
    (s.record (.submitted ios2)).Conserved P
      (ios2 :: held) where
  toLinked := hCon.toLinked.congr rfl
  heldOnce := List.nodup_cons.mpr
    ⟨fun hMem => hOwned (hCon.owed ios2 hMem),
      hCon.heldOnce⟩
  heldApart := by
    intro r hMem head hIn
    rcases List.mem_cons.mp hMem with rfl | hMem
    · exact hOwned (hCon.outstanding hIn)
    · exact hCon.heldApart r hMem head hIn
  queued := by
    intro head r hMem
    refine ⟨?_, hCon.queued head r hMem⟩
    rintro rfl
    exact hOwned (hCon.outstanding hMem)
  owed := by
    intro r hMem
    rcases List.mem_cons.mp hMem with rfl | hMem
    · exact Or.inl rfl
    · exact Or.inr (hCon.owed r hMem)
  pending := by
    rintro r ⟨-, hQueued⟩
    exact Or.inr (hCon.pending r hQueued)
  parked := by
    rintro r (rfl | hDue)
    · exact Or.inl List.mem_cons_self
    · rcases hCon.parked r hDue with hHeld | hQueued
      · exact Or.inl (List.mem_cons_of_mem _ hHeld)
      · by_cases hSame : ios2 = r
        · exact Or.inl (hSame ▸ List.mem_cons_self)
        · exact Or.inr ⟨hSame, hQueued⟩
  found := by
    rintro r (rfl | hDue)
    · exact Or.inr (Or.inl List.mem_cons_self)
    · rcases hCon.found r hDue with hLost | hHeld | hIn
      · exact Or.inl hLost
      · exact Or.inr
          (Or.inl (List.mem_cons_of_mem _ hHeld))
      · exact Or.inr (Or.inr hIn)
  balanced := ⟨hOwned, hCon.balanced⟩
  placed := hCon.placed
  waiting := by
    rintro r ⟨-, hQueued⟩
    exact hCon.waiting r hQueued
  ended := hCon.ended

/- A request that is held is put into a list. -/
theorem addTail
    (hCon : s.Conserved P (ios2 :: held))
    (head : ListHead)
    (hPlace : P.place head ios2 (s.reqs ios2).core)
    (hWaits : P.waits ios2 (s.reqs ios2).core) :
    (s.addTail head ios2).Conserved P held := by
  have hFree := hCon.heldApart ios2 List.mem_cons_self
  have hHeld := List.nodup_cons.mp hCon.heldOnce
  have hMem :
      ∀ head' r, r ∈ (s.addTail head ios2).lists head' ↔
        r ∈ s.lists head' ∨ (r = ios2 ∧ head' = head) := by
    intro head' r
    rw [lists_addTail]
    by_cases hHead : head' = head
    · subst hHead
      simp
    · simp [hHead]
  exact
    { once := by
        intro head'
        rw [lists_addTail]
        split
        · rw [List.nodup_append]
          refine ⟨hCon.once head, by simp, ?_⟩
          rintro r hIn r' hIn' rfl
          rw [List.mem_singleton] at hIn'
          exact hFree head (hIn' ▸ hIn)
        · exact hCon.once head'
      apart := by
        intro head₁ head₂ r hIn₁ hIn₂
        rcases (hMem head₁ r).mp hIn₁ with h₁ | ⟨rfl, rfl⟩
        · rcases (hMem head₂ r).mp hIn₂ with h₂ | ⟨rfl, rfl⟩
          · exact hCon.apart head₁ head₂ r h₁ h₂
          · exact absurd h₁ (hFree head₁)
        · rcases (hMem head₂ r).mp hIn₂ with h₂ | ⟨-, rfl⟩
          · exact absurd h₂ (hFree head₂)
          · rfl
      heldOnce := hHeld.2
      heldApart := by
        intro r hIn head' hIn'
        rcases (hMem head' r).mp hIn' with h | ⟨rfl, -⟩
        · exact hCon.heldApart r (List.mem_cons_of_mem _ hIn)
            head' h
        · exact hHeld.1 hIn
      queued := by
        intro head' r hIn
        rcases (hMem head' r).mp hIn with h | ⟨rfl, -⟩
        · exact Or.inr (hCon.queued head' r h)
        · exact Or.inl rfl
      owed := fun r hIn =>
        hCon.owed r (List.mem_cons_of_mem _ hIn)
      pending := by
        rintro r (rfl | hQueued)
        · exact hCon.owed ios2 List.mem_cons_self
        · exact hCon.pending r hQueued
      parked := by
        intro r hDue
        rcases hCon.parked r hDue with hIn | hQueued
        · rcases List.mem_cons.mp hIn with rfl | hIn
          · exact Or.inr (Or.inl rfl)
          · exact Or.inl hIn
        · exact Or.inr (Or.inr hQueued)
      found := by
        intro r hDue
        rcases hCon.found r hDue with hLost | hIn | ⟨h, hIn⟩
        · exact Or.inl hLost
        · rcases List.mem_cons.mp hIn with rfl | hIn
          · exact Or.inr
              (Or.inr ⟨head, (hMem _ _).mpr (Or.inr ⟨rfl, rfl⟩)⟩)
          · exact Or.inr (Or.inl hIn)
        · exact Or.inr (Or.inr ⟨h, (hMem _ _).mpr (Or.inl hIn)⟩)
      balanced := hCon.balanced
      placed := by
        intro head' r hIn
        rcases (hMem head' r).mp hIn with h | ⟨rfl, rfl⟩
        · exact hCon.placed head' r h
        · exact hPlace
      waiting := by
        rintro r (rfl | hQueued)
        · exact hWaits
        · exact hCon.waiting r hQueued
      ended := hCon.ended }

/- A request is taken out of its list and held. -/
theorem remove
    {head : ListHead}
    (hCon : s.Conserved P held)
    (hMem : ios2 ∈ s.lists head) :
    (s.remove ios2).Conserved P (ios2 :: held) where
  toLinked := hCon.toLinked.remove
  heldOnce := by
    refine List.nodup_cons.mpr ⟨?_, hCon.heldOnce⟩
    intro hHeld
    exact hCon.heldApart ios2 hHeld head hMem
  heldApart := by
    intro r hIn head' hIn'
    rcases List.mem_cons.mp hIn with rfl | hIn
    · exact hCon.toLinked.not_mem_remove head' hIn'
    · exact hCon.heldApart r hIn head'
        (List.mem_of_mem_erase hIn')
  queued := fun head' r hIn =>
    hCon.queued head' r (List.mem_of_mem_erase hIn)
  owed := by
    intro r hIn
    rcases List.mem_cons.mp hIn with rfl | hIn
    · exact hCon.outstanding hMem
    · exact hCon.owed r hIn
  pending := hCon.pending
  parked := fun r hDue =>
    (hCon.parked r hDue).imp (List.mem_cons_of_mem _) id
  found := by
    intro r hDue
    rcases hCon.found r hDue with hLost | hIn | ⟨head', hIn⟩
    · exact Or.inl hLost
    · exact Or.inr (Or.inl (List.mem_cons_of_mem _ hIn))
    · by_cases hSame : r = ios2
      · subst hSame
        exact Or.inr (Or.inl List.mem_cons_self)
      · exact Or.inr
          (Or.inr ⟨head', Linked.mem_remove hSame hIn⟩)
  balanced := hCon.balanced
  placed := fun head' r hIn =>
    hCon.placed head' r (List.mem_of_mem_erase hIn)
  waiting := hCon.waiting
  ended := hCon.ended

/- A request that is held is terminated. -/
theorem termIo
    (hCon : s.Conserved P (ios2 :: held)) :
    (s.termIo ios2).Conserved P held := by
  have hFree := hCon.heldApart ios2 List.mem_cons_self
  have hHeld := List.nodup_cons.mp hCon.heldOnce
  have hCore :
      ∀ r, ((s.termIo ios2).reqs r).core =
        (s.reqs r).core := by
    intro r
    rw [reqs_termIo]
    split
    · rename_i hBoth
      rw [hBoth.1]
      rfl
    · rfl
  exact
    { toLinked := hCon.toLinked.congr (lists_termIo s ios2)
      heldOnce := hHeld.2
      heldApart := by
        rw [lists_termIo]
        exact fun r hIn =>
          hCon.heldApart r (List.mem_cons_of_mem _ hIn)
      queued := by
        intro head r hMem
        rw [lists_termIo] at hMem
        rw [log_termIo]
        refine ⟨?_, hCon.queued head r hMem⟩
        rintro rfl
        exact hFree head hMem
      owed := by
        intro r hIn
        rw [log_termIo]
        refine ⟨?_, hCon.owed r (List.mem_cons_of_mem _ hIn)⟩
        rintro rfl
        exact hHeld.1 hIn
      pending := by
        intro r hQueued
        rw [log_termIo] at hQueued ⊢
        exact ⟨hQueued.1, hCon.pending r hQueued.2⟩
      parked := by
        intro r hDue
        rw [log_termIo] at hDue ⊢
        rcases hCon.parked r hDue.2 with hIn | hQueued
        · rcases List.mem_cons.mp hIn with rfl | hIn
          · exact absurd rfl hDue.1
          · exact Or.inl hIn
        · exact Or.inr ⟨hDue.1, hQueued⟩
      found := by
        intro r hDue
        rw [log_termIo] at hDue
        rw [lists_termIo]
        rcases hCon.found r hDue.2 with hLost | hIn | hIn
        · exact Or.inl hLost
        · rcases List.mem_cons.mp hIn with rfl | hIn
          · exact absurd rfl hDue.1
          · exact Or.inr (Or.inl hIn)
        · exact Or.inr (Or.inr hIn)
      balanced := by
        rw [log_termIo]
        exact ⟨hCon.owed ios2 List.mem_cons_self,
          hCon.balanced⟩
      placed := by
        intro head r hMem
        rw [lists_termIo] at hMem
        rw [hCore]
        exact hCon.placed head r hMem
      waiting := by
        intro r hQueued
        rw [log_termIo] at hQueued
        rw [hCore]
        exact hCon.waiting r hQueued.2
      ended := by
        rw [log_termIo]
        exact ⟨hCon.waiting ios2, hCon.ended⟩ }

end Conserved

end Driver

end KszDriver
