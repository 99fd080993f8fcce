import BrokerRollout.Proofs.Capture
import BrokerRollout.Proofs.Decoding
import BrokerRollout.Proofs.PlanBlocks
import Mathlib.Data.List.Nodup

/-!
# Markers in the output of workers

Markers are looked for in the text of what a worker wrote, but it is its bytes that decide: lossy
decoding neither hides a marker nor makes one up. What is found is a part of the text, and so a
table of queues shows a queue also if it lists one with a longer name. Main statements:
`WorkerProbe.attempt_verdict`, `WorkerProbe.attempt_listing`.
-/

namespace BrokerRollout

variable {σ : Type}

/-- The encoding of a marker occurs among the bytes on the output channel. -/
def Exec.Output.Holds (output : Exec.Output) (marker : String) : Prop :=
  Text.utf8 marker <:+: output.stdout

instance (output : Exec.Output) (marker : String) : Decidable (output.Holds marker) :=
  decidable_of_iff _ Text.occursIn_iff

theorem Exec.Output.holds_iff {output : Exec.Output} {marker : String}
    (solid : '\ufffd' ∉ marker.toList) :
    output.Holds marker ↔ marker.toList <:+: output.stdoutText.toList := by
  rw [Holds, stdoutText, Text.infix_lossy_iff solid, Text.utf8_eq]

theorem missingMarkers_eq_filter {output : Exec.Output} {markers : List String}
    (solid : ∀ m ∈ markers, '\ufffd' ∉ m.toList) :
    missingMarkers output.stdoutText markers = markers.filter fun m => ¬output.Holds m := by
  refine List.filter_congr fun m member => ?_
  rw [decide_not, Bool.eq_iff_iff, Bool.not_eq_true', Bool.not_eq_true', Bool.eq_false_iff,
    ne_eq, Text.occursIn_iff, decide_eq_false_iff_not, Exec.Output.holds_iff (solid m member)]

/-- An endpoint at which every command prints the same and succeeds at once. -/
def Exec.Endpoint.printing (bytes : List UInt8) : Exec.Endpoint σ where
  openSession _ _ state :=
    { answer := .ok { stdout := some { chunks := [(0, bytes)] } }, state }

theorem Sim.exec_printing (bytes : List UInt8) (request : Exec.Request) (w : World σ) :
    ((exec (.printing bytes) request).run w).1 = { stdout := bytes } := by
  have opens : ((openSession (.printing bytes) request).run w).1 =
    .ok { stdout := some { chunks := [(0, bytes)] } } := rfl
  rw [exec_run, opens]
  simp [Exec.Output.ofOpening, Exec.Session.output, Exec.Channel.bytes, Exec.Error.ofParts?]

namespace WorkerProbe

variable {request : Exec.Request} {markers missing : List String} {output : Exec.Output}

theorem judge_failed {error : Exec.Error} (failed : output.error = some error) :
    judge request markers output = .error (.exec request.worker error output) := by
  rw [judge, failed]

theorem judge_missing (ended : output.error = none)
    (absent : BrokerRollout.missingMarkers output.stdoutText markers = missing)
    (some : missing ≠ []) :
    judge request markers output = .error (.missingMarkers request.worker missing output) := by
  rw [judge, ended]
  dsimp only
  rw [absent]
  cases missing with
  | nil => exact absurd rfl some
  | cons _ _ => rfl

theorem judge_shown (shows : output.Shows markers) :
    judge request markers output = .ok output := by
  rw [judge, shows.1, missingMarkers_eq_nil_iff.2 shows.2]

/-- An attempt is judged by what its command leaves behind. -/
theorem attempt_judged (e : Exec.Endpoint σ) (p : WorkerProbe) (w : World σ) :
    (((attempt e).run p).run w).1.1 =
      judge p.request p.markers ((Sim.exec e p.request).run w).1 := by
  rw [attempt_run]
  rfl

/-- An attempt passes when its command succeeded and its bytes hold every marker. Otherwise it fails
with the error of the command, or with the markers that its bytes do not hold. -/
theorem attempt_verdict (e : Exec.Endpoint σ) (p : WorkerProbe) (w : World σ)
    (solid : ∀ m ∈ p.markers, '\ufffd' ∉ m.toList) :
    let output := ((Sim.exec e p.request).run w).1
    let verdict := (((attempt e).run p).run w).1.1
    let missing := p.markers.filter fun m => ¬output.Holds m
    ((∃ value, verdict = .ok value) ↔ output.error = none ∧ ∀ m ∈ p.markers, output.Holds m) ∧
      (∀ value, verdict = .ok value → value = output) ∧
      (∀ error, output.error = some error →
        verdict = .error (.exec p.request.worker error output)) ∧
      (output.error = none → (¬∀ m ∈ p.markers, output.Holds m) →
        verdict = .error (.missingMarkers p.request.worker missing output)) := by
  intro output verdict missing
  have judged : verdict = judge p.request p.markers output := attempt_judged e p w
  have absent : BrokerRollout.missingMarkers output.stdoutText p.markers = missing :=
    missingMarkers_eq_filter solid
  have shows : output.Shows p.markers ↔
      output.error = none ∧ ∀ m ∈ p.markers, output.Holds m := by
    rw [Exec.Output.Shows]
    exact and_congr_right fun _ => forall₂_congr fun m member =>
      (Exec.Output.holds_iff (solid m member)).symm
  rw [judged]
  refine ⟨judge_ok_iff.trans shows, ?same, fun _ => judge_failed, ?fails⟩
  case same =>
    intro value passed
    rw [judge_shown (judge_ok_iff.1 ⟨value, passed⟩)] at passed
    exact (Except.ok.inj passed).symm
  case fails =>
    intro ended lacks
    refine judge_missing ended absent fun none => lacks fun m member => ?_
    simpa using List.filter_eq_nil_iff.1 none m member

/-- A marker is found between bytes that are no text, and one that is a letter off is not. -/
theorem attempt_verdict_broken :
    let output : Exec.Output := { stdout := [0xe2, 0x82] ++ Text.utf8 "|café|" ++ [0xc3] }
    let endpoint : Exec.Endpoint Unit := .printing output.stdout
    let request : Exec.Request := { worker := "w", ns := "n", container := "c", argv := [] }
    let p : WorkerProbe := { request, markers := ["cafe", "café", "cafe"] }
    (∀ m ∈ p.markers, '\ufffd' ∉ m.toList) ∧
      (((attempt endpoint).run p).run { state := () }).1.1 =
        .error (.missingMarkers "w" ["cafe", "cafe"] output) := by
  intro output endpoint request p
  have solid : ∀ m ∈ p.markers, '\ufffd' ∉ m.toList := by decide
  obtain ⟨-, -, -, fails⟩ := attempt_verdict endpoint p { state := () } solid
  rw [Sim.exec_printing] at fails
  have lacks : ¬∀ m ∈ p.markers, output.Holds m := by decide +kernel
  have missing : (p.markers.filter fun m => ¬output.Holds m) = ["cafe", "cafe"] := by
    decide +kernel
  refine ⟨solid, (fails rfl lacks).trans ?_⟩
  exact congrArg (fun absent => Except.error (WorkerError.missingMarkers "w" absent output)) missing

end WorkerProbe

/-! ### Tables of queues -/

/-- Where there is no `d` in a part, none of its occurrences reaches over one. -/
theorem infix_cut {α : Type} {d : α} {part before after : List α} (absent : d ∉ part) :
    part <:+: before ++ d :: after ↔ part <:+: before ∨ part <:+: after := by
  rw [List.infix_append_iff, List.infix_cons_iff]
  constructor
  · rintro (inside | (starts | inside) | ⟨left, right, rfl, inside, starts⟩)
    · exact .inl inside
    · rcases List.prefix_cons_iff.1 starts with rfl | ⟨_, rfl, -⟩
      · exact .inl List.nil_infix
      · exact absurd List.mem_cons_self absent
    · exact .inr inside
    · rcases List.prefix_cons_iff.1 starts with rfl | ⟨_, rfl, -⟩
      · rw [List.append_nil]
        exact .inl inside.isInfix
      · exact absurd (List.mem_append_right left List.mem_cons_self) absent
  · rintro (inside | inside)
    · exact .inl inside
    · exact .inr (.inl (.inr inside))

namespace QueueTable

/-- A line of cells between bars. -/
def line (cells : List String) : List Char :=
  '|' :: cells.flatMap (fun cell => cell.toList ++ ['|']) ++ ['\n']

def heading : List String := ["NAME      ", "ADDRESS     ", "CONSUMER_COUNT", "MESSAGE_COUNT"]

/-- The cells that all rows have in common: no consumers and no messages. -/
def counts : List String := ["0             ", "0            "]

def row (queue address : String) : List String := [queue ++ "  ", address ++ "  "] ++ counts

/-- The table that lists queues with their addresses. -/
def text (rows : List (String × String)) : String :=
  .ofList ((heading :: rows.map fun (queue, address) => row queue address).flatMap line)

/-- A text that fits into a cell: it is not empty, and has neither blanks nor marks of the table. -/
structure Fits (part : List Char) : Prop where
  some : part ≠ []
  bar : '|' ∉ part
  blank : ' ' ∉ part
  newline : '\n' ∉ part

namespace Fits

variable {part : List Char}

theorem of_alphanum {name : String} (some : name ≠ "") (plain : ∀ c ∈ name.toList, c.isAlphanum) :
    Fits name.toList where
  some empty := some (String.toList_eq_nil_iff.1 empty)
  bar member := absurd (plain _ member) (by decide)
  blank member := absurd (plain _ member) (by decide)
  newline member := absurd (plain _ member) (by decide)

theorem infix_mark (fits : Fits part) {d : Char} (absent : d ∉ part) (rest : List Char) :
    part <:+: d :: rest ↔ part <:+: rest := by
  rw [← List.nil_append (d :: rest), infix_cut absent, List.infix_nil]
  exact or_iff_right fits.some

theorem infix_cells (fits : Fits part) (cells : List String) (rest : List Char) :
    part <:+: cells.flatMap (fun cell => cell.toList ++ ['|']) ++ rest ↔
      (∃ cell ∈ cells, part <:+: cell.toList) ∨ part <:+: rest := by
  induction cells with
  | nil => simp
  | cons cell cells ih =>
    rw [List.flatMap_cons, List.append_assoc, List.append_assoc, List.singleton_append,
      infix_cut fits.bar, ih, ← or_assoc]
    simp only [List.mem_cons, exists_eq_or_imp]

theorem infix_lines (fits : Fits part) (lines : List (List String)) :
    part <:+: lines.flatMap line ↔ ∃ cells ∈ lines, ∃ cell ∈ cells, part <:+: cell.toList := by
  induction lines with
  | nil => simpa using fits.some
  | cons cells lines ih =>
    rw [List.flatMap_cons, line, List.append_assoc, List.cons_append, fits.infix_mark fits.bar,
      fits.infix_cells, List.singleton_append, fits.infix_mark fits.newline, ih]
    simp only [List.mem_cons, exists_eq_or_imp]

theorem infix_padded (fits : Fits part) (name : String) :
    part <:+: (name ++ "  ").toList ↔ part <:+: name.toList := by
  have blank : ¬part <:+: [' '] := fun inside =>
    fits.some (List.infix_nil.1 ((fits.infix_mark fits.blank []).1 inside))
  rw [String.toList_append]
  exact (infix_cut fits.blank).trans (or_iff_left blank)

/-- What fits into a cell occurs in a table where it occurs in the heading, a name or a count. -/
theorem infix_text (fits : Fits part) (rows : List (String × String)) :
    part <:+: (text rows).toList ↔ (∃ cell ∈ heading, part <:+: cell.toList) ∨
      ∃ r ∈ rows, part <:+: r.1.toList ∨ part <:+: r.2.toList ∨
        ∃ cell ∈ counts, part <:+: cell.toList := by
  rw [text, String.toList_ofList, fits.infix_lines]
  simp only [row, List.cons_append, List.nil_append, List.mem_cons, List.mem_map,
    exists_eq_or_imp, exists_exists_and_eq_and, fits.infix_padded]

end Fits

/-- A table lists all queues of a plan but one. The queues have names of ASCII letters and digits,
which occur in the table only where it lists queues. -/
structure Lacks (p : Plan) (rows : List (String × String)) (absent : String) : Prop where
  distinct : p.markers.Nodup
  named : ∀ q ∈ p.markers, q ≠ "" ∧ ∀ c ∈ q.toList, c.isAlphanum
  planned : absent ∈ p.markers
  unlisted : absent ∉ rows.map Prod.fst
  listed : ∀ q ∈ p.markers, q ≠ absent → q ∈ rows.map Prod.fst
  apart : ∀ q ∈ p.markers, (∀ cell ∈ heading, ¬q.toList <:+: cell.toList) ∧
    (∀ r ∈ rows, ¬q.toList <:+: r.2.toList) ∧ ∀ cell ∈ counts, ¬q.toList <:+: cell.toList

/-- Names of ASCII letters and digits, by a check that computes. -/
theorem named_of_all {names : List String}
    (checked : (names.all fun q => q != "" && q.toList.all Char.isAlphanum) = true) :
    ∀ q ∈ names, q ≠ "" ∧ ∀ c ∈ q.toList, c.isAlphanum := by
  simpa using checked

namespace Lacks

variable {p : Plan} {rows : List (String × String)} {absent : String}

theorem occurs_iff (lacks : Lacks p rows absent) {q : String} (planned : q ∈ p.markers) :
    q.toList <:+: (text rows).toList ↔ ∃ r ∈ rows, q.toList <:+: r.1.toList := by
  obtain ⟨some, plain⟩ := lacks.named q planned
  obtain ⟨heading, addresses, counts⟩ := lacks.apart q planned
  rw [(Fits.of_alphanum some plain).infix_text]
  constructor
  · rintro (⟨cell, member, inside⟩ | ⟨r, member, inside | inside | ⟨cell, common, inside⟩⟩)
    · exact absurd inside (heading cell member)
    · exact ⟨r, member, inside⟩
    · exact absurd inside (addresses r member)
    · exact absurd inside (counts cell common)
  · rintro ⟨r, member, inside⟩
    exact .inr ⟨r, member, .inl inside⟩

theorem occurs_of_listed (lacks : Lacks p rows absent) {q : String} (planned : q ∈ p.markers)
    (present : q ≠ absent) : q.toList <:+: (text rows).toList := by
  obtain ⟨r, member, rfl⟩ := List.mem_map.1 (lacks.listed q planned present)
  exact (lacks.occurs_iff planned).2 ⟨r, member, List.infix_rfl⟩

/-- The absent queue is missed if its name is part of none that is listed. -/
theorem missing_of_plain (lacks : Lacks p rows absent)
    (plain : ∀ r ∈ rows, ¬absent.toList <:+: r.1.toList) :
    missingMarkers (text rows) p.markers = [absent] := by
  have hides : ¬absent.toList <:+: (text rows).toList := by
    rw [lacks.occurs_iff lacks.planned]
    rintro ⟨r, member, inside⟩
    exact plain r member inside
  have same : missingMarkers (text rows) p.markers = p.markers.filter (· = absent) := by
    refine List.filter_congr fun q planned => ?_
    by_cases equal : q = absent
    · rw [equal]
      simpa [← Bool.not_eq_true, Text.occursIn_iff] using hides
    · simpa [equal, Text.occursIn_iff] using lacks.occurs_of_listed planned equal
  rw [same, List.filter_eq, List.count_eq_one_of_mem lacks.distinct lacks.planned]
  rfl

/-- A longer name hides it. -/
theorem missing_of_hidden (lacks : Lacks p rows absent)
    (hidden : ∃ r ∈ rows, absent.toList <:+: r.1.toList) :
    missingMarkers (text rows) p.markers = [] := by
  refine missingMarkers_eq_nil_iff.2 fun q planned => ?_
  by_cases equal : q = absent
  · rw [equal, lacks.occurs_iff lacks.planned]
    exact hidden
  · exact lacks.occurs_of_listed planned equal

variable {request : Exec.Request} {output : Exec.Output}

theorem judge_of_plain (lacks : Lacks p rows absent) (ended : output.error = none)
    (wrote : output.stdout = Text.utf8 (text rows))
    (plain : ∀ r ∈ rows, ¬absent.toList <:+: r.1.toList) :
    WorkerProbe.judge request p.markers output =
      .error (.missingMarkers request.worker [absent] output) := by
  refine WorkerProbe.judge_missing ended ?_ (List.cons_ne_nil absent [])
  rw [Exec.Output.stdoutText, wrote, Text.lossy_utf8, lacks.missing_of_plain plain]

theorem judge_of_hidden (lacks : Lacks p rows absent) (ended : output.error = none)
    (wrote : output.stdout = Text.utf8 (text rows))
    (hidden : ∃ r ∈ rows, absent.toList <:+: r.1.toList) :
    WorkerProbe.judge request p.markers output = .ok output := by
  refine WorkerProbe.judge_shown ⟨ended, ?_⟩
  rw [Exec.Output.stdoutText, wrote, Text.lossy_utf8]
  exact missingMarkers_eq_nil_iff.1 (lacks.missing_of_hidden hidden)

end Lacks

end QueueTable

namespace WorkerProbe

open QueueTable

/-- A worker that lacks one queue is found out by it, unless the name of the queue is part of one
that the worker lists: then nothing is missed, and the worker passes. -/
theorem attempt_listing {p : Plan} {rows : List (String × String)} {absent : String}
    (lacks : Lacks p rows absent) (e : Exec.Endpoint σ) (w : World σ) (ordinal : Nat)
    (ended : ((Sim.exec e (p.workerRequest ordinal)).run w).1.error = none)
    (wrote : ((Sim.exec e (p.workerRequest ordinal)).run w).1.stdout = Text.utf8 (text rows)) :
    let output := ((Sim.exec e (p.workerRequest ordinal)).run w).1
    let probe : WorkerProbe := { request := p.workerRequest ordinal, markers := p.markers }
    let verdict := (((attempt e).run probe).run w).1.1
    ((∀ r ∈ rows, ¬absent.toList <:+: r.1.toList) →
      BrokerRollout.missingMarkers (text rows) p.markers = [absent] ∧
        verdict = .error (.missingMarkers (p.cluster.workerName ordinal) [absent] output)) ∧
    ((∃ r ∈ rows, absent.toList <:+: r.1.toList) →
      BrokerRollout.missingMarkers (text rows) p.markers = [] ∧ verdict = .ok output) := by
  intro output probe verdict
  have judged : verdict = judge probe.request p.markers output := attempt_judged e probe w
  rw [judged]
  constructor
  · intro plain
    exact ⟨lacks.missing_of_plain plain, lacks.judge_of_plain ended wrote plain⟩
  · intro hidden
    exact ⟨lacks.missing_of_hidden hidden, lacks.judge_of_hidden ended wrote hidden⟩

/-- The last queue of the address rollout is found to be missing from a table of the others. -/
theorem attempt_listing_rollout :
    let p := Plan.addressRollout "default"
    let rows := (p.addresses.take 4).map fun a => (a.queueName, a.addressName)
    let output : Exec.Output := { stdout := Text.utf8 (text rows) }
    let endpoint : Exec.Endpoint Unit := .printing (Text.utf8 (text rows))
    let probe : WorkerProbe := { request := p.workerRequest 2, markers := p.markers }
    Lacks p rows "myQueue4" ∧ (∀ r ∈ rows, ¬"myQueue4".toList <:+: r.1.toList) ∧
      (((attempt endpoint).run probe).run { state := () }).1.1 =
        .error (.missingMarkers "ex-aao-broker-ss-2" ["myQueue4"] output) := by
  intro p rows output endpoint probe
  have lacks : Lacks p rows "myQueue4" := {
    distinct := by decide +kernel
    named := named_of_all (by decide +kernel)
    planned := by decide +kernel
    unlisted := by decide +kernel
    listed := by decide +kernel
    apart := by
      simp only [← Text.occursIn_iff]
      decide +kernel }
  have plain : ∀ r ∈ rows, ¬"myQueue4".toList <:+: r.1.toList := by
    simp only [← Text.occursIn_iff]
    decide +kernel
  have captured := Sim.exec_printing (Text.utf8 (text rows)) (p.workerRequest 2) { state := () }
  have name : p.cluster.workerName 2 = "ex-aao-broker-ss-2" := by decide +kernel
  obtain ⟨found, -⟩ := attempt_listing lacks endpoint { state := () } 2 (by rw [captured])
    (by rw [captured])
  have fails := (found plain).2
  rw [captured, name] at fails
  exact ⟨lacks, plain, fails⟩

/-- The name of one queue is part of that of the other, and so a worker that lists only the other
passes. -/
theorem judge_longerName :
    let p : Plan := { Plan.addressRollout "default" with
      addresses := [Plan.rolloutAddress "default" 1, Plan.rolloutAddress "default" 10] }
    let rows := [("myQueue10", "myAddress10")]
    let output : Exec.Output := { stdout := Text.utf8 (text rows) }
    text rows = "|NAME      |ADDRESS     |CONSUMER_COUNT|MESSAGE_COUNT|\n" ++
        "|myQueue10  |myAddress10  |0             |0            |\n" ∧
      Lacks p rows "myQueue1" ∧
      BrokerRollout.missingMarkers (text rows) p.markers ≠ ["myQueue1"] ∧
      judge (p.workerRequest 0) p.markers output = .ok output := by
  intro p rows output
  have lacks : Lacks p rows "myQueue1" := {
    distinct := by decide +kernel
    named := named_of_all (by decide +kernel)
    planned := by decide +kernel
    unlisted := by decide +kernel
    listed := by decide +kernel
    apart := by
      simp only [← Text.occursIn_iff]
      decide +kernel }
  have hidden : ∃ r ∈ rows, "myQueue1".toList <:+: r.1.toList := by
    simp only [← Text.occursIn_iff]
    decide +kernel
  refine ⟨by decide +kernel, lacks, ?_, lacks.judge_of_hidden rfl rfl hidden⟩
  rw [lacks.missing_of_hidden hidden]
  exact (List.cons_ne_nil _ _).symm

end WorkerProbe

end BrokerRollout
