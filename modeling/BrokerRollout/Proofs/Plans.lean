import BrokerRollout.Proofs.Validation

/-!
# Valid plans and narrow windows

No two resources of a valid plan are the same (`Plan.nodup_refs`), and no two ordinals have the
same request (`Plan.workerRequest_injective`). The attempts of a narrow window are no more than the
bound that is announced for it (`Window.Narrow.slots_lt`).
-/

namespace BrokerRollout

theorem Plan.nodup_refs {p : Plan} (valid : p.validate = .ok ()) :
    (p.resources.map Resource.ref).Nodup :=
  (validate_eq_ok_iff.1 valid).distinct

theorem Plan.nodup_addresses {p : Plan} (valid : p.validate = .ok ()) : p.addresses.Nodup := by
  have distinct := nodup_refs valid
  rw [resources, List.map_append, List.map_map] at distinct
  have apart := (List.nodup_append.1 distinct).2.1
  exact List.Pairwise.of_map _ (fun _ _ different same => different (congrArg _ same)) apart

/-! ### Numbered names -/

theorem toDigits_injective {i j : Nat} (h : Nat.toDigits 10 i = Nat.toDigits 10 j) : i = j := by
  rw [← Nat.ofDigitChars_ten_toDigits (n := i), h, Nat.ofDigitChars_ten_toDigits]

theorem repr_injective {i j : Nat} (h : i.repr = j.repr) : i = j := by
  apply toDigits_injective
  rw [← Nat.toList_repr, ← Nat.toList_repr, h]

theorem Plan.rolloutAddress_injective (ns : String) {i j : Nat}
    (h : (rolloutAddress ns i).ref = (rolloutAddress ns j).ref) : i = j :=
  repr_injective ((String.append_right_inj _).1 (congrArg Ref.name h))

/-- The address rollout is valid in every namespace. -/
theorem Plan.addressRollout_valid (ns : String) : (addressRollout ns).validate = .ok () := by
  have addresses : ((List.range 5).map fun i => (rolloutAddress ns i).ref).Nodup :=
    List.Pairwise.map _ (fun _ _ other same => other (rolloutAddress_injective ns same))
      List.nodup_range
  refine validate_eq_ok_iff.2 ⟨fun r member => ?_, ?_, ?_⟩
  · simp only [resources, addressRollout, Option.toList_some, List.mem_append, List.mem_cons,
      List.mem_map, List.mem_range] at member
    rcases member with (rfl | ⟨_, rfl | ⟨⟨⟩⟩, rfl⟩) | ⟨_, ⟨i, -, rfl⟩, rfl⟩
    · exact (by decide : "ex-aao-broker" ≠ "")
    · exact (by decide : "ex-proper" ≠ "")
    · simp [Resource.ref, Address.ref, rolloutAddress]
  · rintro _ ⟨⟩
    simp [rolloutSecurity, Security.Declares]
  have refs : (addressRollout ns).resources.map Resource.ref =
      (addressRollout ns).cluster.ref :: (rolloutSecurity ns).ref ::
        (List.range 5).map fun i => (rolloutAddress ns i).ref := rfl
  rw [refs]
  -- Resources of different kinds are different, whatever they are called.
  refine List.nodup_cons.2 ⟨?_, List.nodup_cons.2 ⟨?_, addresses⟩⟩
  · simp [Cluster.ref, Security.ref, Address.ref]
  · simp [Security.ref, Address.ref]

/-! ### Workers -/

theorem dash_not_mem_toDigits {n : Nat} : '-' ∉ Nat.toDigits 10 n := by
  intro member
  have digit := Nat.isDigit_of_mem_toDigits (by decide) (by decide) member
  exact absurd digit (by decide)

theorem between_dashes {i j : Nat} {between : List Char}
    (same : '-' :: Nat.toDigits 10 i = between ++ '-' :: Nat.toDigits 10 j) : between = [] := by
  cases between with
  | nil => rfl
  | cons a between =>
    have digits : Nat.toDigits 10 i = between ++ '-' :: Nat.toDigits 10 j := (List.cons.inj same).2
    have member : '-' ∈ Nat.toDigits 10 i := by
      rw [digits]
      exact List.mem_append_right between List.mem_cons_self
    exact absurd member dash_not_mem_toDigits

/-- The last dash is where the ordinal begins. -/
theorem append_dash_inj {i j : Nat} {xs ys : List Char}
    (same : xs ++ '-' :: Nat.toDigits 10 i = ys ++ '-' :: Nat.toDigits 10 j) :
    xs = ys ∧ Nat.toDigits 10 i = Nat.toDigits 10 j := by
  rcases List.append_eq_append_iff.1 same with ⟨between, rfl, rest⟩ | ⟨between, rfl, rest⟩
  · obtain rfl := between_dashes rest
    exact ⟨(List.append_nil xs).symm, (List.cons.inj rest).2⟩
  · obtain rfl := between_dashes rest
    exact ⟨List.append_nil ys, (List.cons.inj rest).2.symm⟩

theorem Cluster.toList_workerName (c : Cluster) (i : Nat) :
    (c.workerName i).toList = c.statefulSetName.toList ++ '-' :: Nat.toDigits 10 i := by
  unfold workerName
  rw [String.toList_append, String.toList_append, List.append_assoc, Nat.toString_eq_repr,
    Nat.toList_repr]
  rfl

/-- A worker's name tells the cluster's and the ordinal, whatever dashes the cluster's has. -/
theorem Cluster.workerName_inj {c d : Cluster} {i j : Nat} :
    c.workerName i = d.workerName j ↔ c.name = d.name ∧ i = j := by
  constructor
  · intro same
    have letters := congrArg String.toList same
    rw [toList_workerName, toList_workerName] at letters
    obtain ⟨sets, digits⟩ := append_dash_inj letters
    have names : c.statefulSetName = d.statefulSetName := String.toList_injective sets
    exact ⟨(String.append_left_inj _).1 names, toDigits_injective digits⟩
  · rintro ⟨names, rfl⟩
    unfold workerName statefulSetName
    rw [names]

theorem Cluster.workerName_injective (c : Cluster) {i j : Nat}
    (h : c.workerName i = c.workerName j) : i = j :=
  (workerName_inj.1 h).2

theorem Plan.workerRequest_injective (p : Plan) {i j : Nat}
    (h : p.workerRequest i = p.workerRequest j) : i = j :=
  p.cluster.workerName_injective (congrArg Exec.Request.worker h)

theorem Cluster.mem_ordinalsDescending {c : Cluster} {ordinal : Nat} :
    ordinal ∈ c.ordinalsDescending ↔ ordinal < c.replicas := by
  rw [ordinalsDescending, List.mem_reverse, List.mem_range]

theorem Cluster.ordinalsDescending_pairwise (c : Cluster) :
    c.ordinalsDescending.Pairwise (· > ·) := by
  rw [ordinalsDescending, List.pairwise_reverse]
  exact List.pairwise_lt_range

theorem Cluster.ordinalsDescending_nodup (c : Cluster) : c.ordinalsDescending.Nodup :=
  c.ordinalsDescending_pairwise.imp fun above => Nat.ne_of_gt above

/-! ### Windows -/

/-- The slots can be counted in 32 bits. -/
def Window.Narrow (w : Window) : Prop := w.slots < Window.maxCount

instance (w : Window) : Decidable w.Narrow := inferInstanceAs (Decidable (_ < _))

/-- The announced bound as a number; a window without a bound has none for its attempts. -/
def Window.announced (w : Window) : Nat := w.maxAttempts.toOption.getD 0

theorem Window.Narrow.maxAttempts {w : Window} (h : w.Narrow) :
    w.maxAttempts = .ok (w.slots + 1) := by
  unfold Narrow at h
  rw [Window.maxAttempts, counted, if_pos (Nat.le_of_lt h), if_pos h]

theorem Window.Narrow.announced {w : Window} (h : w.Narrow) : w.announced = w.slots + 1 := by
  rw [Window.announced, h.maxAttempts]
  rfl

theorem Window.Narrow.slots_lt {w : Window} (h : w.Narrow) : w.slots < w.announced := by
  rw [h.announced]
  exact Nat.lt_succ_self _

/-- All three windows are narrow. -/
structure Timing.Narrow (t : Timing) : Prop where
  convergence : t.convergence.Narrow
  worker : t.worker.Narrow
  persistence : t.persistence.Narrow

/-- Every wait lasts up to ten seconds, with a look each second. -/
def Timing.brief : Timing :=
  let window : Window := ⟨.ofMillis 10000, .ofMillis 1000, by decide⟩
  { convergence := window, worker := window, persistence := window }

theorem Timing.brief_narrow : brief.Narrow := ⟨by decide, by decide, by decide⟩

end BrokerRollout
