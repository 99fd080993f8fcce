import BrokerRollout.Proofs.Overruns
import BrokerRollout.Proofs.Rollout

/-!
# The grammar of a run's calls

A run of a valid plan goes through the blocks of the plan up to the first that fails, and then
deletes what it created, the newest first. So each address is read back before the next one is
created, and workers are contacted one after the other, each only after all before it have passed
(`Ordered`). A run that panics stops inside the blocks, and deletes nothing. Main statement:
`run_calls`.
-/

namespace BrokerRollout.Scenario

variable {σ : Type} {t : Timing} {s : Settings} {p : Plan}

/-! ### Which block makes which call -/

theorem mem_submissionBlocks {k : Block} (h : k ∈ submissionBlocks t s p) :
    (∃ r ∈ p.resources, k = creation r) ∨ ∃ ref, k.ask = .get ref := by
  rw [← submissionBlocks_eq] at h
  obtain ⟨step, member, block⟩ := List.mem_filterMap.1 h
  rcases mem_submissionSteps member with ⟨r, listed, rfl⟩ | rfl | ⟨a, -, rfl⟩ <;> cases block
  · exact .inl ⟨r, listed, rfl⟩
  · exact .inr ⟨_, rfl⟩
  · exact .inr ⟨_, rfl⟩

theorem creation_mem {r : Resource} (h : r ∈ p.resources) :
    creation r ∈ submissionBlocks t s p := by
  rw [← submissionBlocks_eq]
  exact List.mem_filterMap.2 ⟨_, submit_mem h, rfl⟩

/-- Before an address is read back it is created, and none of the addresses after it is. -/
theorem blocks_address {done rest : List Address} {a : Address}
    (place : p.addresses = done ++ a :: rest) :
    ∃ early late, blocks t s p = early ++ persistence t a.ref :: late ∧
      creation (.address a) ∈ early ∧
      ∀ k ∈ early, ∀ b, k.ask = .create (.address b) → b ∈ done ++ [a] := by
  let upTo : Plan := { p with addresses := done }
  let after := rest.flatMap fun a => [creation (.address a), persistence t a.ref]
  refine ⟨submissionBlocks t s upTo ++ [creation (.address a)], after ++ verificationBlocks t s p,
    ?_, by simp, ?_⟩
  · simp [after, upTo, blocks, submissionBlocks, place]
  · intro k member b asks
    rcases List.mem_append.1 member with member | member
    · rcases mem_submissionBlocks member with ⟨r, present, rfl⟩ | ⟨ref, reads⟩
      · obtain rfl : r = .address b := Ask.create.inj asks
        have listed : b ∈ done := by simpa [Plan.resources, upTo] using present
        exact List.mem_append_left _ listed
      · cases reads.symm.trans asks
    · rw [List.mem_singleton.1 member] at asks
      cases asks
      simp

/-- The blocks of a live run up to the point where workers are contacted. -/
def waitingBlocks (t : Timing) (s : Settings) (p : Plan) : List Block :=
  submissionBlocks t s p ++ [readiness t p.cluster.ref p.cluster.replicas]

theorem blocks_live (live : s.verifiesLiveState = true) :
    blocks t s p = waitingBlocks t s p ++ p.cluster.ordinalsDescending.map (workerBlock t p) := by
  simp [blocks, verificationBlocks, waitingBlocks, live]

theorem waitingBlocks_contact {k : Block} {request : Exec.Request}
    (h : k ∈ waitingBlocks t s p) : k.ask ≠ .openSession request := by
  intro asks
  rcases List.mem_append.1 h with member | member
  · rcases mem_submissionBlocks member with ⟨_, _, rfl⟩ | ⟨_, reads⟩
    · cases asks
    · cases reads.symm.trans asks
  · rw [List.mem_singleton.1 member] at asks
    cases asks

/-- A worker is contacted in live runs only. -/
theorem live_of_contact {k : Block} {request : Exec.Request} (h : k ∈ blocks t s p)
    (asks : k.ask = .openSession request) : s.verifiesLiveState = true := by
  cases live : s.verifiesLiveState with
  | true => rfl
  | false =>
    have early : k ∈ waitingBlocks t s p := by
      simp only [blocks, verificationBlocks, live, Bool.false_eq_true, if_false,
        List.append_nil] at h
      exact List.mem_append_left _ h
    exact absurd asks (waitingBlocks_contact early)

/-! ### Order -/

/-- Requests for workers from the highest ordinal down, each some number of times in a row. -/
def Contacts (t : Timing) (p : Plan) (requests : List Exec.Request) : Prop :=
  ∃ counts : List Nat, counts.length ≤ p.cluster.replicas ∧
    (∀ n ∈ counts, 1 ≤ n ∧ n ≤ t.worker.announced) ∧
    requests = (p.cluster.ordinalsDescending.zip counts).flatMap fun x =>
      List.replicate x.2 (p.workerRequest x.1)

/-- What the grammar says of single calls: what comes before them. -/
structure Ordered (t : Timing) (s : Settings) (p : Plan) (calls : List Call) : Prop where
  /-- An address is created after the one before it was, and after that one was read back. -/
  oneByOne : ∀ {done rest : List Address} {a next : Address} {before after : List Call} {c : Call},
    p.addresses = done ++ a :: next :: rest → calls = before ++ c :: after →
    c.ask = .create (.address next) →
    ∃ first found second, before = first ++ .get a.ref (.ok (some found)) :: second ∧
      found.ref.name = a.name ∧ .create (.address a) (.ok ()) ∈ first
  /-- A worker is contacted after everything was created and, after that, the cluster was seen with
  all its workers ready. -/
  converged : ∀ {before after : List Call} {c : Call} {request : Exec.Request},
    calls = before ++ c :: after → c.ask = .openSession request →
    ∃ first found second, before = first ++ .get p.cluster.ref (.ok (some found)) :: second ∧
      found.readyCount = p.cluster.replicas ∧ ∀ r ∈ p.resources, .create r (.ok ()) ∈ first
  /-- A worker is contacted after all workers of higher ordinals have passed. -/
  descending : ∀ {before after : List Call} {c : Call} {ordinal higher : Nat},
    calls = before ++ c :: after → c.ask = .openSession (p.workerRequest ordinal) →
    ordinal < higher → higher < p.cluster.replicas →
    ∃ session, .openSession (p.workerRequest higher) (.ok session) ∈ before ∧
      session.output.Shows p.markers
  contacts : Contacts t p ((calls.map Call.ask).filterMap Ask.request?)

theorem follows_oneByOne {done rest : List Address} {a next : Address} {before after : List Call}
    {c : Call} (h : Follows (blocks t s p) (before ++ c :: after)) (valid : p.validate = .ok ())
    (place : p.addresses = done ++ a :: next :: rest) (asks : c.ask = .create (.address next)) :
    ∃ first found second, before = first ++ .get a.ref (.ok (some found)) :: second ∧
      found.ref.name = a.name ∧ .create (.address a) (.ok ()) ∈ first := by
  obtain ⟨early, late, split, creates, known⟩ := blocks_address place
  rw [split] at h
  have new : next ∉ done ++ [a] := by
    have distinct := Plan.nodup_addresses valid
    rw [place, ← List.singleton_append, ← List.append_assoc] at distinct
    intro member
    exact (List.nodup_append.1 distinct).2.2 next member next List.mem_cons_self rfl
  have other : ∀ k ∈ early ++ [persistence t a.ref], c.ask ≠ k.ask := by
    intro k member same
    rcases List.mem_append.1 member with member | member
    · exact new (known k member next (same.symm.trans asks))
    · rw [List.mem_singleton.1 member] at same
      cases same.symm.trans asks
  obtain ⟨first, d, second, rfl, ⟨found, rfl, named⟩, passed⟩ := h.accepted_before other
  obtain ⟨_, present, rfl⟩ := passed _ creates
  exact ⟨first, found, second, rfl, named, present⟩

theorem follows_live {calls : List Call} {c : Call} {request : Exec.Request}
    (h : Follows (blocks t s p) calls) (member : c ∈ calls) (asks : c.ask = .openSession request) :
    s.verifiesLiveState = true := by
  obtain ⟨k, listed, same⟩ := h.asks member
  exact live_of_contact listed (same.symm.trans asks)

theorem follows_converged {before after : List Call} {c : Call} {request : Exec.Request}
    (h : Follows (blocks t s p) (before ++ c :: after)) (asks : c.ask = .openSession request) :
    ∃ first found second, before = first ++ .get p.cluster.ref (.ok (some found)) :: second ∧
      found.readyCount = p.cluster.replicas ∧ ∀ r ∈ p.resources, .create r (.ok ()) ∈ first := by
  have live := follows_live h (by simp) asks
  rw [blocks_live live, waitingBlocks, List.append_assoc] at h
  have other : ∀ k ∈ waitingBlocks t s p, c.ask ≠ k.ask := by
    intro k member same
    exact waitingBlocks_contact member (same.symm.trans asks)
  obtain ⟨first, d, second, rfl, ⟨found, rfl, ready⟩, passed⟩ := h.accepted_before other
  refine ⟨first, found, second, rfl, ready, fun r listed => ?_⟩
  obtain ⟨_, present, rfl⟩ := passed _ (creation_mem listed)
  exact present

theorem follows_descending {before after : List Call} {c : Call} {ordinal higher : Nat}
    (h : Follows (blocks t s p) (before ++ c :: after))
    (asks : c.ask = .openSession (p.workerRequest ordinal)) (above : ordinal < higher)
    (below : higher < p.cluster.replicas) :
    ∃ session, .openSession (p.workerRequest higher) (.ok session) ∈ before ∧
      session.output.Shows p.markers := by
  have live := follows_live h (by simp) asks
  obtain ⟨done, rest, place⟩ := List.append_of_mem (Cluster.mem_ordinalsDescending.2 below)
  have sorted := p.cluster.ordinalsDescending_pairwise
  rw [place, List.pairwise_append] at sorted
  have top : ∀ o ∈ done ++ [higher], ordinal < o := by
    intro o member
    rcases List.mem_append.1 member with member | member
    · exact Nat.lt_trans above (sorted.2.2 o member higher List.mem_cons_self)
    · rwa [List.mem_singleton.1 member]
  rw [blocks_live live, place, List.map_append, List.map_cons, ← List.append_assoc] at h
  have other : ∀ k ∈ waitingBlocks t s p ++ done.map (workerBlock t p) ++ [workerBlock t p higher],
      c.ask ≠ k.ask := by
    intro k member same
    rw [List.append_assoc, ← List.map_singleton, ← List.map_append] at member
    rcases List.mem_append.1 member with member | member
    · exact waitingBlocks_contact member (same.symm.trans asks)
    · obtain ⟨o, listed, rfl⟩ := List.mem_map.1 member
      have equal := p.workerRequest_injective (Ask.openSession.inj (asks.symm.trans same))
      exact Nat.lt_irrefl o (equal ▸ top o listed)
  obtain ⟨first, d, second, rfl, ⟨session, rfl, passed⟩, -⟩ := h.accepted_before other
  exact ⟨session, by simp, passed⟩

theorem requests_eq_nil {calls : List Call}
    (silent : ∀ c ∈ calls, ∀ request, c.ask ≠ .openSession request) :
    (calls.map Call.ask).filterMap Ask.request? = [] := by
  rw [List.filterMap_eq_nil_iff]
  intro ask member
  obtain ⟨c, present, rfl⟩ := List.mem_map.1 member
  cases asks : c.ask with
  | openSession request => exact absurd asks (silent c present request)
  | _ => rfl

theorem requests_waitingBlocks {calls : List Call} (h : Follows (waitingBlocks t s p) calls) :
    (calls.map Call.ask).filterMap Ask.request? = [] := by
  refine requests_eq_nil fun c present request asks => ?_
  obtain ⟨k, listed, same⟩ := h.asks present
  exact waitingBlocks_contact listed (same.symm.trans asks)

theorem contacts_nil : Contacts t p [] := ⟨[], Nat.zero_le _, by simp, by simp⟩

theorem contacts_workerBlocks {calls : List Call}
    (h : Follows (p.cluster.ordinalsDescending.map (workerBlock t p)) calls) :
    Contacts t p ((calls.map Call.ask).filterMap Ask.request?) := by
  obtain ⟨counts, length, bounds, asks⟩ := h.shape
  rw [List.length_map] at length
  rw [List.zip_map_left] at bounds asks
  refine ⟨counts, by simpa [Cluster.ordinalsDescending] using length, ?_, ?_⟩
  · intro n member
    rw [← List.map_snd_zip length] at member
    obtain ⟨x, place, rfl⟩ := List.mem_map.1 member
    exact bounds _ (List.mem_map_of_mem place)
  · rw [asks, List.flatMap_map, List.filterMap_flatMap]
    refine congrArg (List.flatMap · _) (funext fun x => ?_)
    exact List.filterMap_replicate_of_some rfl

theorem follows_contacts {calls : List Call} (h : Follows (blocks t s p) calls) :
    Contacts t p ((calls.map Call.ask).filterMap Ask.request?) := by
  cases live : s.verifiesLiveState with
  | false =>
    have silent : ∀ c ∈ calls, ∀ request, c.ask ≠ .openSession request := by
      intro c present request asks
      cases live.symm.trans (follows_live h present asks)
    rw [requests_eq_nil silent]
    exact contacts_nil
  | true =>
    rw [blocks_live live] at h
    rcases h.split with ⟨before, after, rfl, through, later⟩ | short
    · rw [List.map_append, List.filterMap_append, requests_waitingBlocks (.inl through)]
      exact contacts_workerBlocks later
    · rw [requests_waitingBlocks short]
      exact contacts_nil

theorem follows_ordered {calls : List Call} (h : Follows (blocks t s p) calls)
    (valid : p.validate = .ok ()) : Ordered t s p calls where
  oneByOne place same asks := follows_oneByOne (same ▸ h) valid place asks
  converged same asks := follows_converged (same ▸ h) asks
  descending same asks above below := follows_descending (same ▸ h) asks above below
  contacts := follows_contacts h

theorem blocks_keep {k : Block} (h : k ∈ blocks t s p) : k.ask.deletion? = none := by
  rw [← blocks_eq] at h
  obtain ⟨step, -, block⟩ := List.mem_filterMap.1 h
  cases step <;> cases block <;> rfl

/-- The calls of a run of a valid plan go through the blocks of the plan, to the end if the run
passes and up to the first that fails if it does not, and then delete what was created. A run that
panics, over a window that is too long for the clock, makes no more calls than those of the blocks up
to there, and so leaves what it has created. -/
theorem run_calls (b : Backend σ) (t : Timing) (s : Settings) (p : Plan) (w : World σ)
    (valid : p.validate = .ok ()) (narrow : t.Narrow) :
    let ended := (run b t s p).run w
    let calls := (run b t s p).callsOf w
    match ended.1 with
    | .ok report => ∃ driven cleaned, calls = driven ++ cleaned ∧
        (report.passed = true → Through (blocks t s p) driven) ∧
        (report.passed = false → CutShort (blocks t s p) driven) ∧
        Ordered t s p driven ∧
        report.created = driven.filterMap createdBy ∧
        cleaned.map Call.ask = report.created.reverse.map .delete
    | .error panic => panic = .instant ∧ t.Overruns ended.2.now ∧ CutShort (blocks t s p) calls ∧
        Ordered t s p calls ∧ ∀ c ∈ calls, c.ask.deletion? = none := by
  intro ended calls
  have recounted : Recounted t s p ended.1 calls := (run_acts b t s p).callsOf w
  obtain ⟨⟨panic | report, after⟩, ran⟩ : ∃ out, ended = out := ⟨_, rfl⟩ <;> rw [ran] at recounted ⊢
  case error =>
    obtain ⟨taken, -, interrupted⟩ := recounted
    obtain ⟨_, _, _, _, -, -, -, panics⟩ := interrupted.split
    have cut := interrupted.cutShort narrow
    refine ⟨panics.instant narrow, run_overruns ran, cut, follows_ordered (.inr cut) valid, ?_⟩
    intro c member
    obtain ⟨k, listed, same⟩ := Follows.asks (.inr cut) member
    rw [same, blocks_keep listed]
  case ok =>
    obtain ⟨taken, outcome, driven, cleaned, made, account⟩ := recounted
    have passes := account.passed_iff
    refine ⟨driven, cleaned, made, ?through, ?cut, ?ordered, account.creates, account.cleans⟩
    case through =>
      intro passed
      obtain rfl := passes.1 passed
      exact account.drives.through narrow
    case cut =>
      intro failed
      rcases outcome with failure | ⟨⟩
      · exact account.drives.cutShort narrow valid
      · rw [passes.2 rfl] at failed
        cases failed
    case ordered =>
      refine follows_ordered ?_ valid
      rcases outcome with failure | ⟨⟩
      · exact .inr (account.drives.cutShort narrow valid)
      · exact .inl (account.drives.through narrow)

/-- The run that passes has gone through all blocks. -/
theorem run_calls_rollout :
    let p := Plan.addressRollout "broker"
    let x := run (MemoryStore.backend secondTryEndpoint) .brief .live p
    p.validate = .ok () ∧ Timing.brief.Narrow ∧
      ∃ report driven cleaned, (x.run secondTryWorld).1 = .ok report ∧ report.passed = true ∧
        x.callsOf secondTryWorld = driven ++ cleaned ∧ Through (blocks .brief .live p) driven ∧
        Ordered .brief .live p driven ∧
        cleaned.map Call.ask = report.created.reverse.map .delete := by
  intro p x
  have valid : p.validate = .ok () := rfl
  obtain ⟨report, reported, passed⟩ : ∃ report, ((run (MemoryStore.backend secondTryEndpoint) .brief
      .live p).run secondTryWorld).1 = .ok report ∧ report.passed = true := secondTry_passes
  have grammar := run_calls (MemoryStore.backend secondTryEndpoint) .brief .live p secondTryWorld
    valid Timing.brief_narrow
  dsimp only at grammar
  rw [reported] at grammar
  obtain ⟨driven, cleaned, calls, through, -, ordered, -, cleans⟩ := grammar
  exact ⟨valid, Timing.brief_narrow, report, driven, cleaned, reported, passed, calls,
    through passed, ordered, cleans⟩

/-- A cluster that is not ready at once is to be looked at again after `2 ^ 63` seconds. No clock
reaches that time, and the run panics with the cluster created and not deleted. -/
theorem run_calls_endless :
    let endless : Duration := ⟨Time.limit, by decide⟩
    let t : Timing := { Timing.brief with convergence := ⟨endless, endless, by decide⟩ }
    let p := Plan.addressRollout "broker"
    let x := run ⟨MemoryStore.store, .offline⟩ t .live p
    p.validate = .ok () ∧ t.Narrow ∧ (x.run { state := {} }).1 = .error .instant ∧
      (x.callsOf { state := {} }).map Call.ask =
        [.create (.cluster p.cluster), .get p.cluster.ref] ∧
      (x.run { state := {} }).2.state.contains p.cluster.ref = true := by
  intro endless t p x
  have narrow : t.Narrow := ⟨by decide, by decide, by decide⟩
  exact ⟨rfl, narrow, by decide +kernel, by decide +kernel, by decide +kernel⟩

end BrokerRollout.Scenario
