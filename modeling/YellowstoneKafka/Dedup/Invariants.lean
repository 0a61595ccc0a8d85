import YellowstoneKafka.Dedup.Machine

/-!
# What every run of `dedup` keeps

One invariant, `Inv`, holds when the loop starts and is kept by every event. It keeps two
ledgers. The counters: `sent_inc` counted each
delivered task and `dedup_inc` each refused one, and `join_next` returned only such tasks. The
records: every task and every queued record comes from the consumed message at its position,
whose key the checks accepted; every queued record follows a `true` answer of the backend for
its own pair; and no message has more than one record queued or more than one task still asking.
The bound on the `JoinSet` is the scheduler's, in `Dedup.Scheduling`.
-/

namespace YellowstoneKafka.Dedup

/-- A task is counted by `sent_inc`. -/
def Task.isDelivered (t : Task) : Bool := t.phase = .delivered

/-- A task is counted by `dedup_inc`. -/
def Task.isRefused (t : Task) : Bool := t.phase = .refused

/-- The task of the message at `i` has yet to hear the backend. -/
def Task.awaits (i : Nat) (t : Task) : Bool := t.phase = .allowing ∧ t.source = i

/-- The pair a queued record was keyed with. -/
def pairOf (p : Nat × Keyed) : UInt64 × Digest := (p.2.slot, p.2.hash)

/-- The message at `i` passed the checks as `r`. -/
def Accepted (received : List Message) (i : Nat) (r : Keyed) : Prop :=
  (received[i]?).bind Message.keyed = some r

theorem Accepted.lt {received : List Message} {i : Nat} {r : Keyed}
    (h : Accepted received i r) : i < received.length := by
  by_contra hn
  simp [Accepted, List.getElem?_eq_none (Nat.le_of_not_lt hn)] at h

theorem Accepted.append {received : List Message} {i : Nat} {r : Keyed}
    (h : Accepted received i r) (m : Message) : Accepted (received ++ [m]) i r := by
  rwa [Accepted, List.getElem?_append_left h.lt]

/-- The invariant of `dedup`. -/
structure Inv (s : State) : Prop where
  joined : ∀ t ∈ s.joined, t.phase = .refused ∨ t.phase = .delivered
  sentTotal : s.sentTotal = (s.tasks ++ s.joined).countP Task.isDelivered
  dedupTotal : s.dedupTotal = (s.tasks ++ s.joined).countP Task.isRefused
  flag : s.kafkaError = true → s.fatal = .taken
  both : s.fatal ≠ .pending ↔ s.consumerFailed ∧ s.producerFailed
  returned : s.loc = .done (.ok ()) → s.tasks = [] ∨ s.fatal = .taken
  origin : ∀ t ∈ s.tasks, Accepted s.received t.source t.record
  sends : ∀ p ∈ s.sent, Accepted s.received p.1 p.2 ∧ ⟨p.1, p.2.slot, p.2.hash, true⟩ ∈ s.calls
  once : ∀ i, s.sent.countP (fun x => x.1 = i) + s.tasks.countP (Task.awaits i) ≤ 1
  pairs : (s.sent.map pairOf).Sublist ((s.calls.filter Call.answer).map Call.pair)

variable {q : Nat} {s : State}

theorem inv_init : Inv init where
  joined := by simp [init]
  sentTotal := rfl
  dedupTotal := rfl
  flag := by simp [init]
  both := by simp [init]
  returned := by simp [init]
  origin := by simp [init]
  sends := by simp [init]
  once := by simp [init]
  pairs := by simp [init]

/-- The same ledgers at another program point. -/
theorem Inv.moveTo (h : Inv s) (l : Loc)
    (hret : l = .done (.ok ()) → s.tasks = [] ∨ s.fatal = .taken) : Inv { s with loc := l } :=
  { h with returned := hret }

theorem Inv.sideband (h : Inv s) {c p : Bool} (hc : s.consumerFailed → c)
    (hp : s.producerFailed → p) : Inv (s.sideband c p) := by
  unfold State.sideband
  split
  · rename_i hcp
    exact { h with
      flag := fun hk => by simp [h.flag hk, Signal.fire]
      both := by simpa using hcp
      returned := fun hr => by
        rcases h.returned hr with ht | ht
        · exact .inl ht
        · simp [ht, Signal.fire] }
  · rename_i hcp
    exact { h with both := ⟨fun hf => absurd ⟨hc (h.both.mp hf).1, hp (h.both.mp hf).2⟩ hcp,
      fun hb => absurd hb hcp⟩ }

theorem Inv.leaveLoop (h : Inv s) : Inv s.leaveLoop := by
  unfold State.leaveLoop
  split
  · exact h.moveTo _ fun _ => .inr (h.flag ‹_›)
  · exact h.moveTo _ (by simp)

/-- Changing the phase of the task at `k` keeps the invariant once the counters, the backend's
answers and the queued records follow the change. -/
theorem Inv.setPhase (h : Inv s) {k : Nat} {t : Task} (hk : s.tasks[k]? = some t) (p : Phase)
    {sent : List (Nat × Keyed)} {calls : List Call} {sentTotal dedupTotal : Nat}
    (hsent : sentTotal + (if t.isDelivered then 1 else 0) =
      s.sentTotal + (if Task.isDelivered { t with phase := p } then 1 else 0))
    (hdedup : dedupTotal + (if t.isRefused then 1 else 0) =
      s.dedupTotal + (if Task.isRefused { t with phase := p } then 1 else 0))
    (hsends : ∀ x ∈ sent, Accepted s.received x.1 x.2 ∧ ⟨x.1, x.2.slot, x.2.hash, true⟩ ∈ calls)
    (honce : ∀ i, sent.countP (fun x => x.1 = i) +
        (if Task.awaits i { t with phase := p } then 1 else 0) ≤
      s.sent.countP (fun x => x.1 = i) + (if t.awaits i then 1 else 0))
    (hpairs : (sent.map pairOf).Sublist ((calls.filter Call.answer).map Call.pair)) :
    Inv { s with tasks := s.tasks.set k { t with phase := p }, sent := sent, calls := calls,
                   sentTotal := sentTotal, dedupTotal := dedupTotal } := by
  have hmem : t ∈ s.tasks := List.getElem?_mem hk
  have hd := countP_set_add Task.isDelivered { t with phase := p } hk
  have hr := countP_set_add Task.isRefused { t with phase := p } hk
  exact
  { h with
    sentTotal := by
      have := h.sentTotal
      simp only [List.countP_append] at this ⊢
      omega
    dedupTotal := by
      have := h.dedupTotal
      simp only [List.countP_append] at this ⊢
      omega
    returned := by simpa using h.returned
    origin := fun u hu => by
      rcases List.mem_or_eq_of_mem_set hu with hu | rfl
      · exact h.origin u hu
      · exact h.origin t hmem
    sends := hsends
    once := fun i => by
      have := countP_set_add (Task.awaits i) { t with phase := p } hk
      have := h.once i
      have := honce i
      dsimp only
      omega
    pairs := hpairs }

theorem Inv.allow (h : Inv s) (k : Nat) (answer queued : Bool) :
    Inv (s.allow k answer queued) := by
  unfold State.allow
  split
  · rename_i t hk
    split
    · rename_i ht
      have horig := h.origin t (List.getElem?_mem hk)
      have hsends := fun (c : Call) x (hx : x ∈ s.sent) =>
        And.imp_right (fun hc => List.mem_append_left [c] hc) (h.sends x hx)
      split
      · split
        · refine h.setPhase hk _ (by simp [Task.isDelivered, ht]) (by simp [Task.isRefused, ht])
            ?_ ?_ ?_
          · intro x hx
            rcases List.mem_append.mp hx with hx | hx
            · exact hsends _ x hx
            · obtain rfl := List.mem_singleton.mp hx
              simp [horig, ‹answer = true›]
          · intro i
            by_cases hi : t.source = i <;> simp [Task.awaits, ht, hi, List.countP_append]
          · simpa [pairOf, Call.pair, ‹answer = true›] using
              h.pairs.append (List.Sublist.refl [(t.record.slot, t.record.hash)])
        · refine h.setPhase hk _ (by simp [Task.isDelivered, ht]) (by simp [Task.isRefused, ht])
            (fun x hx => hsends _ x hx) (fun i => by simp [Task.awaits, ht]) ?_
          simpa [‹answer = true›] using h.pairs.trans (List.sublist_append_left _ _)
      · refine h.setPhase hk _ (by simp [Task.isDelivered, ht])
          (by simp [Task.isRefused, ht]) (fun x hx => hsends _ x hx)
          (fun i => by simp [Task.awaits, ht]) ?_
        simpa [‹¬answer = true›] using h.pairs
    · exact h
  · exact h

theorem Inv.deliver (h : Inv s) (k : Nat) (ok : Bool) : Inv (s.deliver k ok) := by
  unfold State.deliver
  split
  · rename_i t hk
    split
    · rename_i ht
      split <;>
        exact h.setPhase hk _ (by simp [Task.isDelivered, ht]) (by simp [Task.isRefused, ht])
          h.sends (fun i => by simp [Task.awaits, ht]) h.pairs
    · exact h
  · exact h

theorem Inv.join (h : Inv s) (hl : s.loc.joining) (k : Nat) : Inv (s.join k) := by
  unfold State.join
  split
  · rename_i t hk
    split
    · exact h.moveTo _ (by simp)
    · rename_i hout
      exact
      { joined := by
          simp only [List.mem_append, List.mem_singleton]
          rintro u (hu | rfl)
          · exact h.joined u hu
          · exact Phase.output_eq_ok.mp hout
        sentTotal := h.sentTotal.trans (countP_eraseIdx_append _ hk).symm
        dedupTotal := h.dedupTotal.trans (countP_eraseIdx_append _ hk).symm
        flag := h.flag
        both := h.both
        returned := fun hr => by
          split at hr <;> simp_all [Loc.joining]
        origin := fun u hu => h.origin u (List.mem_of_mem_eraseIdx hu)
        sends := h.sends
        once := fun i => by
          have := countP_eraseIdx_add (Task.awaits i) hk
          have := h.once i
          dsimp only
          omega
        pairs := h.pairs }
    · exact h
  · exact h

/-- A consumed message joins the ledger of received ones. -/
theorem Inv.record (h : Inv s) (m : Message) : Inv { s with received := s.received ++ [m] } :=
  { h with
    origin := fun t ht => (h.origin t ht).append m
    sends := fun p hp => ⟨(h.sends p hp).1.append m, (h.sends p hp).2⟩ }

/-- A task for the message just consumed joins the set. -/
theorem Inv.push (h : Inv s) {m : Message} {r : Keyed} (hr : m.keyed = some r) (l : Loc)
    (hret : l ≠ .done (.ok ())) :
    Inv { s with received := s.received ++ [m], loc := l,
                   tasks := s.tasks ++ [Task.mk s.received.length r .allowing] } :=
  have h' := h.record m
  { h' with
    sentTotal := by simp [h.sentTotal, Task.isDelivered]
    dedupTotal := by simp [h.dedupTotal, Task.isRefused]
    returned := fun hd => absurd hd hret
    origin := by
      simp only [List.mem_append, List.mem_singleton]
      rintro t (ht | rfl)
      · exact h'.origin t ht
      · simp [Accepted, hr]
    once := fun i => by
      have := h.once i
      by_cases hi : s.received.length = i
      · subst hi
        have h1 : s.sent.countP (fun x => x.1 = s.received.length) = 0 :=
          List.countP_eq_zero.mpr fun x hx => by simpa using (h.sends x hx).1.lt.ne
        have h2 : s.tasks.countP (Task.awaits s.received.length) = 0 :=
          List.countP_eq_zero.mpr fun t ht => by simp [Task.awaits, (h.origin t ht).lt.ne]
        simp [List.countP_append, Task.awaits, h1, h2]
      · simpa [List.countP_append, Task.awaits, hi] using this }

theorem Inv.receive (h : Inv s) (hl : s.loc = .streaming) (item : Item) :
    Inv (s.receive q item) := by
  unfold State.receive
  match item with
  | .error => exact h.moveTo _ (by simp)
  | .message m =>
    simp only
    split
    · exact h.record m
    · rename_i r hr
      split
      · exact h.push hr _ (by simp)
      · exact h.push hr s.loc (by simp [hl])

theorem Inv.takeShutdown (h : Inv s) : Inv s.takeShutdown := by
  unfold State.takeShutdown
  split
  · exact (show Inv { s with shutdown := .taken } from { h with }).leaveLoop
  · exact h

theorem Inv.takeFatal (h : Inv s) : Inv s.takeFatal := by
  unfold State.takeFatal
  split
  · rename_i hf
    have hboth := h.both.mp (by simp [hf])
    split
    · have h' : Inv { s with fatal := .taken, kafkaError := true } :=
        { h with flag := fun _ => rfl, both := by simpa using hboth, returned := by simp }
      exact h'.leaveLoop
    · split
      · exact { h with flag := fun _ => rfl, both := by simpa using hboth, returned := by simp }
      · exact h
  · exact h

/-- Every event keeps the invariant. -/
theorem Inv.after (h : Inv s) (e : Event) : Inv (step q s e) := by
  apply step_rec e h
  case shutdownSignal => exact { h with }
  case consumerFatal => exact h.sideband (fun _ => rfl) id
  case producerFatal => exact h.sideband id (fun _ => rfl)
  case allow => exact h.allow
  case deliver => exact h.deliver
  case takeShutdown => exact h.takeShutdown
  case takeFatal => exact h.takeFatal
  case join => exact h.join
  case joinNone => exact fun hd => h.moveTo _ fun _ => .inl hd.2
  case receive => exact h.receive

/-- The invariant holds after every run. -/
theorem inv_run (es : List Event) : Inv (run q init es) :=
  run_induction es inv_init fun _ e h => h.after e

end YellowstoneKafka.Dedup
