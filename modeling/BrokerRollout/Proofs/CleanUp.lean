import BrokerRollout.Proofs.Agreement
import BrokerRollout.Proofs.Phases
import BrokerRollout.Proofs.Plans

/-!
# The clean-up of a run

A run deletes what it created, the newest first and nothing else, and reports how that went. How it
goes makes no difference to the verdict. Main statement: `run_cleanUp`.
-/

namespace BrokerRollout.Scenario

variable {σ : Type} {t : Timing} {s : Settings} {p : Plan}

/-! ### What is created -/

variable {taken : List Step} {outcome : Except Failure Unit} {driven cleaned : List Call}
  {report : Report}

theorem Account.created_begins (a : Account t s p taken outcome driven cleaned report) :
    report.created <+: p.resources.map Resource.ref := by
  rw [a.created, ← refs_steps p s]
  exact a.drives.begins.filterMap Step.ref?

theorem Account.created_all (a : Account t s p taken outcome driven cleaned report)
    (submitted : report.reached .submitted = true) :
    report.created = p.resources.map Resource.ref := by
  have begins := a.created_begins
  have entered : .submitted ∈ taken.filterMap Step.phase? := by
    rw [Report.reached, a.trail] at submitted
    cases outcome <;> simpa [lastPhase] using submitted
  obtain ⟨rest, whole⟩ := a.drives.begins
  rw [steps_eq] at whole
  rcases List.append_eq_append_iff.1 whole with ⟨more, early, -⟩ | ⟨more, rfl, -⟩
  · rw [phases_early early] at entered
    cases entered
  · rw [a.created, List.filterMap_append, refs_submissionSteps] at begins ⊢
    exact (List.prefix_append _ _).eq_of_length_le begins.length_le |>.symm

theorem Account.created_none (a : Account t s p taken outcome driven cleaned report)
    (invalid : p.validate ≠ .ok ()) : report.created = [] := by
  rw [a.created]
  cases a.drives with
  | invalid => rfl
  | valid sound => exact absurd sound invalid

theorem Account.created_nodup (a : Account t s p taken outcome driven cleaned report) :
    report.created.Nodup := by
  by_cases valid : p.validate = .ok ()
  · exact (Plan.nodup_refs valid).sublist a.created_begins.sublist
  · rw [a.created_none valid]
    exact List.nodup_nil

/-! ### What is deleted -/

def Step.ask? : Step → Option Ask
  | .submit resource => some (.create resource)
  | .awaitReady ref _ | .awaitPersisted ref => some (.get ref)
  | .enter _ => none
  | .checkWorker request _ => some (.openSession request)

theorem Step.Does.asks {step : Step} {calls : List Call} (h : step.Does t outcome calls) {c : Call}
    (member : c ∈ calls) : step.ask? = some c.ask := by
  cases h with
  | created | refused =>
    rw [List.mem_singleton.1 member]
    rfl
  | entered => cases member
  | ready | unready | persisted | unpersisted | checked | unchecked =>
    obtain ⟨_, _, rfl⟩ := List.mem_map.1 member
    rfl

theorem Course.keeps {planned : List Step} {calls : List Call}
    (h : Course t planned taken outcome calls) {c : Call} (member : c ∈ calls) :
    c.ask.deletion? = none := by
  have keeps {step : Step} {ask : Ask} (h : step.ask? = some ask) : ask.deletion? = none := by
    cases step <;> cases h <;> rfl
  induction h with
  | arrived => cases member
  | passed here _ ih =>
    rcases List.mem_append.1 member with member | member
    · exact keeps (here.asks member)
    · exact ih member
  | stopped here => exact keeps (here.asks member)

theorem Drives.keeps {calls : List Call} (h : Drives t s p taken outcome calls) {c : Call}
    (member : c ∈ calls) : c.ask.deletion? = none := by
  cases h with
  | invalid => cases member
  | valid _ course => exact course.keeps member

/-- Deletions are accounted for once each, in their order: those that succeeded, and the rest. -/
theorem deletions_split {refs : List Ref} {calls : List Call}
    (h : calls.map Call.ask = refs.map .delete) :
    (calls.filterMap deletedBy).Sublist refs ∧
      ((calls.filterMap undeletedBy).map CleanupError.ref).Sublist refs ∧
      (calls.filterMap deletedBy ++ (calls.filterMap undeletedBy).map CleanupError.ref).Perm
        refs := by
  induction refs generalizing calls with
  | nil =>
    obtain rfl := List.map_eq_nil_iff.1 h
    exact ⟨List.Sublist.refl _, List.Sublist.refl _, List.Perm.refl _⟩
  | cons ref rest ih =>
    obtain ⟨c, calls, rfl, asks, more⟩ := List.map_eq_cons_iff.1 h
    obtain ⟨deleted, undeleted, all⟩ := ih more
    rcases c with _ | _ | ⟨_, error | ⟨⟩⟩ | _ <;> cases asks
    · exact ⟨deleted.cons _, undeleted.cons_cons _, List.perm_middle.trans (all.cons _)⟩
    · exact ⟨deleted.cons_cons _, undeleted.cons _, all.cons _⟩

/-! ### Whole runs -/

/-- What a run reports of creations and deletions is what its calls have done. -/
structure Bookkeeping (p : Plan) (report : Report) (calls : List Call) : Prop where
  begins : report.created <+: p.resources.map Resource.ref
  all : report.reached .submitted = true → report.created = p.resources.map Resource.ref
  none : p.validate ≠ .ok () → report.created = []
  created : report.created = calls.filterMap createdBy
  distinct : report.created.Nodup
  deletions : (calls.map Call.ask).filterMap Ask.deletion? = report.created.reverse
  /-- Nothing is deleted that the run did not create before. -/
  owned : ∀ {before after : List Call} {c : Call} {ref : Ref}, calls = before ++ c :: after →
    c.ask = .delete ref → ∃ resource, resource.ref = ref ∧ .create resource (.ok ()) ∈ before
  /-- Nothing but deletions comes after the first of them. -/
  last : ∃ driven cleaned, calls = driven ++ cleaned ∧
    cleaned.map Call.ask = report.created.reverse.map .delete
  deleted : report.deleted = calls.filterMap deletedBy
  undeleted : report.cleanupErrors = calls.filterMap undeletedBy
  deletedSome : report.deleted.Sublist report.created.reverse
  undeletedSome : (report.cleanupErrors.map CleanupError.ref).Sublist report.created.reverse
  complementary : (report.deleted ++ report.cleanupErrors.map CleanupError.ref).Perm
    report.created.reverse

/-- Of what only deletions have, a run has what its clean-up has. -/
theorem Account.filterMap_deletions {α : Type} {f : Call → Option α}
    (a : Account t s p taken outcome driven cleaned report)
    (only : ∀ c : Call, c.ask.deletion? = none → f c = none) :
    (driven ++ cleaned).filterMap f = cleaned.filterMap f := by
  have none : driven.filterMap f = [] :=
    List.filterMap_eq_nil_iff.2 fun c member => only c (a.drives.keeps member)
  rw [List.filterMap_append, none, List.nil_append]

theorem Account.deletions (a : Account t s p taken outcome driven cleaned report) :
    ((driven ++ cleaned).map Call.ask).filterMap Ask.deletion? = report.created.reverse := by
  have cleans : (driven ++ cleaned).filterMap (Ask.deletion? ∘ Call.ask) =
      cleaned.filterMap (Ask.deletion? ∘ Call.ask) := a.filterMap_deletions fun _ kept => kept
  rw [List.filterMap_map, cleans, ← List.filterMap_map, a.cleans, List.filterMap_map]
  exact List.filterMap_some

theorem Account.cleaned_only (a : Account t s p taken outcome driven cleaned report) {α : Type}
    {f : Call → Option α} (only : ∀ ref answer, f (.delete ref answer) = none) :
    ∀ c ∈ cleaned, f c = none := by
  intro c member
  obtain ⟨_, asks⟩ := a.cleaned_asks member
  cases c <;> cases asks
  exact only _ _

theorem Account.created_calls (a : Account t s p taken outcome driven cleaned report) :
    report.created = (driven ++ cleaned).filterMap createdBy := by
  have none : cleaned.filterMap createdBy = [] :=
    List.filterMap_eq_nil_iff.2 (a.cleaned_only fun _ _ => rfl)
  rw [List.filterMap_append, none, List.append_nil, a.creates]

theorem Account.owned (a : Account t s p taken outcome driven cleaned report)
    {before after : List Call} {c : Call} {ref : Ref}
    (place : driven ++ cleaned = before ++ c :: after) (asks : c.ask = .delete ref) :
    ∃ resource, resource.ref = ref ∧ .create resource (.ok ()) ∈ before := by
  have absent : c ∉ driven := by
    intro member
    have kept := a.drives.keeps member
    rw [asks] at kept
    cases kept
  obtain ⟨more, rfl⟩ := comes_before place.symm absent
  have deleted : ref ∈ report.created.reverse := by
    rw [← a.deletions, place]
    simp [asks, Ask.deletion?]
  rw [List.mem_reverse, a.creates] at deleted
  obtain ⟨creating, member, made⟩ := List.mem_filterMap.1 deleted
  rcases creating with ⟨resource, _ | ⟨⟩⟩ | _ | _ | _ <;> cases made
  exact ⟨resource, rfl, List.mem_append_left _ member⟩

theorem Account.bookkeeping (a : Account t s p taken outcome driven cleaned report) :
    Bookkeeping p report (driven ++ cleaned) := by
  obtain ⟨deletedSome, undeletedSome, complementary⟩ := deletions_split a.cleans
  rw [← a.deleted] at deletedSome complementary
  rw [← a.undeleted] at undeletedSome complementary
  have deleted : report.deleted = (driven ++ cleaned).filterMap deletedBy := by
    rw [a.deleted, a.filterMap_deletions]
    rintro (_ | _ | _ | _) kept <;> cases kept <;> rfl
  have undeleted : report.cleanupErrors = (driven ++ cleaned).filterMap undeletedBy := by
    rw [a.undeleted, a.filterMap_deletions]
    rintro (_ | _ | _ | _) kept <;> cases kept <;> rfl
  exact {
    begins := a.created_begins
    all := a.created_all
    none := a.created_none
    created := a.created_calls
    distinct := a.created_nodup
    deletions := a.deletions
    owned := a.owned
    last := ⟨driven, cleaned, rfl, a.cleans⟩
    deleted, undeleted, deletedSome, undeletedSome, complementary }

/-- A run deletes what it has created, the newest first, and reports for each whether that went
well. What backends answer to deletions makes no difference to the rest of the report. -/
theorem run_cleanUp (b : Backend σ) (t : Timing) (s : Settings) (p : Plan) (w : World σ) :
    Reports t ((run b t s p).run w) fun report =>
      Bookkeeping p report ((run b t s p).callsOf w) ∧
        ∀ {τ : Type} (R : σ → τ → Prop) (c : Backend τ) (v : World τ),
          b.Alike R c → World.Alike R w v →
          ∃ other, ((run c t s p).run v).1 = .ok other ∧
            other.trail = report.trail ∧ other.failure = report.failure ∧
            other.created = report.created ∧ other.verifiedWorkers = report.verifiedWorkers := by
  refine reports_of fun report reported => ⟨?_, ?_⟩
  · obtain ⟨taken, outcome, driven, cleaned, calls, account⟩ := run_account b t s p reported
    rw [calls]
    exact account.bookkeeping
  · intro τ R c v alike worlds
    have same : ((run b t s p).run w).1.map Report.verdict =
        ((run c t s p).run v).1.map Report.verdict := verdict_agrees alike worlds
    rw [reported] at same
    cases came : ((run c t s p).run v).1 with
    | error panic =>
      rw [came] at same
      cases same
    | ok other =>
      rw [came] at same
      exact ⟨other, rfl, Report.verdict_eq.1 (Except.ok.inj same).symm⟩

/-- A cluster that the store in memory fails to delete leaves the trail of a run as it is. -/
theorem run_cleanUp_stuck :
    let ended (m : MemoryStore) :=
      (run ⟨MemoryStore.store, .offline⟩ .brief .live (Plan.addressRollout "broker")).run
        { state := m }
    ∃ report other, (ended {}).1 = .ok report ∧
      (ended (MemoryStore.stuck [(Plan.addressRollout "broker").cluster.ref] {})).1 = .ok other ∧
      other.trail = report.trail := by
  intro ended
  let refs := [(Plan.addressRollout "broker").cluster.ref]
  have worlds : World.Alike (fun x y => y = MemoryStore.stuck refs x) { state := {} }
      { state := MemoryStore.stuck refs {} } := ⟨rfl, rfl⟩
  have fits : ¬Timing.brief.Overruns (ended {}).2.now := by decide +kernel
  obtain ⟨report, reported, -, alike⟩ := (run_cleanUp ⟨MemoryStore.store, .offline⟩ .brief .live
    (Plan.addressRollout "broker") { state := {} }).exists fits
  obtain ⟨other, came, trail, -⟩ := alike _ _ _ (MemoryStore.stuck_alike refs) worlds
  exact ⟨report, other, reported, came, trail⟩

end BrokerRollout.Scenario
