import BrokerRollout.Kube.Store
import BrokerRollout.Proofs.Encoding

/-!
# Requests for resources

A resource whose namespace and name are DNS names has requests (`Kube.createRequest_ok` and so on).
Their path shows the resource's kind, namespace and name, so each resource has a path of its own
(`Kube.resourcePath_injective`).
-/

namespace BrokerRollout

/-! ### Names -/

/-- The characters of DNS names. -/
def isDnsChar (c : Char) : Bool := c.isLower || c.isDigit || c = '-' || c = '.'

/-- A name that is made up as DNS names are. -/
structure DnsName (s : String) : Prop where
  nonempty : s ≠ ""
  short : s.length ≤ 253
  chars : ∀ c ∈ s.toList, isDnsChar c = true

instance (s : String) : Decidable (DnsName s) :=
  decidable_of_iff (s ≠ "" ∧ s.length ≤ 253 ∧ s.toList.all isDnsChar = true)
    ⟨fun ⟨a, b, c⟩ => ⟨a, b, List.all_eq_true.1 c⟩, fun ⟨a, b, c⟩ => ⟨a, b, List.all_eq_true.2 c⟩⟩

/-- The resource can be addressed in a cluster. -/
structure Ref.Addressable (r : Ref) : Prop where
  ns : DnsName r.ns
  name : DnsName r.name

instance (r : Ref) : Decidable r.Addressable :=
  decidable_of_iff (DnsName r.ns ∧ DnsName r.name) ⟨fun ⟨a, b⟩ => ⟨a, b⟩, fun ⟨a, b⟩ => ⟨a, b⟩⟩

theorem isDnsChar_ascii {c : Char} (dns : isDnsChar c = true) : c.toNat < 0x80 := by
  have below {low high : UInt32} (range : (decide (low ≤ c.val) && decide (c.val ≤ high)) = true)
      (ascii : high.toNat < 0x80) : c.toNat < 0x80 :=
    Nat.lt_of_le_of_lt (of_decide_eq_true (Bool.and_eq_true_iff.1 range).2) ascii
  simp only [isDnsChar, Bool.or_eq_true, decide_eq_true_eq] at dns
  rcases dns with ((letter | digit) | rfl) | rfl
  · exact below letter (by decide)
  · exact below digit (by decide)
  · decide
  · decide

theorem DnsName.noSlash {s : String} (h : DnsName s) : '/' ∉ s.toList :=
  fun slash => absurd (h.chars _ slash) (by decide)

namespace Kube

/-! ### Paths -/

/-- The parts of a path between its slashes. -/
def parts (path : String) : List String := (path.toList.splitOn '/').map String.ofList

/-- The parts of all paths of resources before the namespace. -/
def root : List String := ["", "apis", "broker.amq.io", "v1beta1", "namespaces"]

theorem parts_intercalate {names : List String} (some : names ≠ [])
    (noSlash : ∀ name ∈ names, '/' ∉ name.toList) : parts ("/".intercalate names) = names := by
  have plain : ∀ cs ∈ names.map String.toList, '/' ∉ cs := by simpa using noSlash
  have split := List.splitOn_intercalate '/' plain (by simpa using some)
  rw [parts, String.toList_intercalate]
  show (List.splitOn '/' (['/'].intercalate (names.map String.toList))).map String.ofList = names
  rw [split, List.map_map]
  exact (List.map_congr_left fun _ _ => String.ofList_toList).trans (List.map_id _)

theorem collectionPath_eq (r : Ref) :
    collectionPath r = "/".intercalate (root ++ [r.ns, r.kind.plural]) := by
  have start : "/apis/" ++ apiVersion ++ "/namespaces/" = "/".intercalate root ++ "/" := by decide
  rw [collectionPath, start, String.intercalate_append_of_ne_nil (by decide) (by simp),
    String.intercalate_cons_cons, String.intercalate_singleton]
  simp only [String.append_assoc]

theorem resourcePath_eq (r : Ref) :
    resourcePath r = "/".intercalate (root ++ [r.ns, r.kind.plural, r.name]) := by
  have same : root ++ [r.ns, r.kind.plural, r.name] =
      (root ++ [r.ns, r.kind.plural]) ++ [r.name] := rfl
  rw [same, String.intercalate_append_of_ne_nil (by simp) (by simp), ← collectionPath_eq,
    String.intercalate_singleton]
  rfl

theorem plural_noSlash (k : Kind) : '/' ∉ k.plural.toList := by
  cases k <;> decide

theorem plural_injective {k l : Kind} (same : k.plural = l.plural) : k = l := by
  cases k <;> cases l <;> first | rfl | exact absurd same (by decide)

variable {r q : Ref}

theorem parts_collectionPath (ns : DnsName r.ns) :
    parts (collectionPath r) = root ++ [r.ns, r.kind.plural] := by
  rw [collectionPath_eq]
  refine parts_intercalate (by simp) ?_
  simp only [List.forall_mem_append, List.forall_mem_cons, List.not_mem_nil, false_imp_iff,
    implies_true, and_true]
  exact ⟨by decide, ns.noSlash, plural_noSlash _⟩

theorem parts_resourcePath (h : r.Addressable) :
    parts (resourcePath r) = root ++ [r.ns, r.kind.plural, r.name] := by
  rw [resourcePath_eq]
  refine parts_intercalate (by simp) ?_
  simp only [List.forall_mem_append, List.forall_mem_cons, List.not_mem_nil, false_imp_iff,
    implies_true, and_true]
  exact ⟨by decide, h.ns.noSlash, plural_noSlash _, h.name.noSlash⟩

/-- No two resources share a path. -/
theorem resourcePath_injective (hr : r.Addressable) (hq : q.Addressable)
    (same : resourcePath r = resourcePath q) : r = q := by
  have split := congrArg parts same
  rw [parts_resourcePath hr, parts_resourcePath hq, List.append_cancel_left_eq] at split
  obtain ⟨kind, ns, name⟩ := r
  obtain ⟨kind', ns', name'⟩ := q
  simp only [List.cons.injEq, and_true] at split
  obtain ⟨rfl, plural, rfl⟩ := split
  rw [plural_injective plural]

/-- Two resources that share the path for their creation are of one kind and in one namespace. -/
theorem collectionPath_injective (hr : DnsName r.ns) (hq : DnsName q.ns)
    (same : collectionPath r = collectionPath q) : r.kind = q.kind ∧ r.ns = q.ns := by
  have split := congrArg parts same
  rw [parts_collectionPath hr, parts_collectionPath hq, List.append_cancel_left_eq] at split
  simp only [List.cons.injEq, and_true] at split
  exact ⟨plural_injective split.2, split.1⟩

/-! ### Requests -/

/-- The characters of paths. -/
def isPlain (c : Char) : Bool := isDnsChar c || c = '/'

/-- A path that needs no encoding and is not too long for a request. -/
structure Sendable (path : String) : Prop where
  chars : ∀ c ∈ path.toList, isPlain c = true
  short : path.length ≤ 1000

theorem isPlain_dnsName {s : String} (h : DnsName s) : ∀ c ∈ s.toList, isPlain c = true := by
  intro c member
  rw [isPlain, h.chars c member, Bool.true_or]

theorem isPathChar_of_isPlain {c : Char} (plain : isPlain c = true) :
    c.toNat < 0x80 ∧ Http.Uri.isPathChar c = true ∧ c ≠ '?' ∧ c ≠ '#' := by
  have ascii : c.toNat < 0x80 := by
    simp only [isPlain, Bool.or_eq_true, decide_eq_true_eq] at plain
    rcases plain with dns | rfl
    · exact isDnsChar_ascii dns
    · decide
  -- Few characters are of ASCII, and so they can be gone through.
  have all : ∀ v < 0x80, isPlain (Char.ofNat v) = true →
      Http.Uri.isPathChar (Char.ofNat v) = true ∧ Char.ofNat v ≠ '?' ∧ Char.ofNat v ≠ '#' := by
    decide
  rw [← Char.ofNat_toNat c] at plain ⊢
  exact ⟨by rwa [Char.ofNat_toNat], all _ ascii plain⟩

theorem Sendable.request {path : String} (h : Sendable path) (method : Http.Method)
    {query : Option (List (String × String))} (empty : ∀ pairs ∈ query, pairs = [])
    (body : Option Json) : requestTo method path query body = .ok { method, path, body } := by
  have plain (c : Char) (member : c ∈ path.toList) := isPathChar_of_isPlain (h.chars c member)
  have size : path.utf8ByteSize = path.length := by
    rw [← Text.length_utf8, Text.utf8_eq, Text.encoded_ascii fun c member => (plain c member).1,
      List.length_map, String.length_toList]
  have keeps : ∀ c ∈ path.toList, (!(c = '?' || c = '#')) = true := by
    intro c member
    simp [(plain c member).2.2]
  have whole : path.toList.takeWhile (fun c => !(c = '?' || c = '#')) = path.toList := by
    rw [← List.append_nil path.toList, List.takeWhile_append_of_pos keeps, List.takeWhile_nil]
  have allowed : path.toList.all Http.Uri.isPathChar = true :=
    List.all_eq_true.2 fun c member => (plain c member).2.1
  have fits (n : Nat) (small : n ≤ 1) : ¬Http.Uri.maxLength < path.utf8ByteSize + n := by
    have := h.short
    unfold Http.Uri.maxLength
    omega
  have sent : Http.Request.to? method path query body = .ok { method, path, body } := by
    cases query with
    | none =>
      rw [Http.Request.to?]
      simp only [whole, allowed, fits 0 (by decide), List.drop_length, if_false, Bool.not_true,
        Bool.false_eq_true, String.ofList_toList]
      rfl
    | some pairs =>
      obtain rfl := empty pairs rfl
      rw [Http.Request.to?]
      simp only [whole, allowed, fits (Http.Form.size [] + 1) (Nat.le_refl 1), List.drop_length,
        if_false, Bool.not_true, Bool.false_eq_true, String.ofList_toList]
      rfl
  rw [requestTo, sent]
  rfl

theorem isPlain_slash : ∀ c ∈ "/".toList, isPlain c = true := List.all_eq_true.1 (by decide)

theorem length_plural (k : Kind) : k.plural.length ≤ 25 := by
  cases k <;> decide

theorem length_collectionPath (ns : DnsName r.ns) : (collectionPath r).length ≤ 400 := by
  have root : ("/apis/" ++ apiVersion ++ "/namespaces/").length = 39 := by decide
  have := ns.short
  have := length_plural r.kind
  have slash : "/".length = 1 := rfl
  rw [collectionPath, String.length_append, String.length_append, String.length_append, root, slash]
  omega

theorem sendable_collectionPath (ns : DnsName r.ns) : Sendable (collectionPath r) := by
  have length := length_collectionPath ns
  have root : ("/apis/" ++ apiVersion ++ "/namespaces/").toList.all isPlain = true := by decide
  have plural : r.kind.plural.toList.all isPlain = true := by
    cases r.kind <;> decide
  refine ⟨?_, Nat.le_trans length (by decide)⟩
  rw [collectionPath, String.toList_append, String.toList_append, String.toList_append]
  simp only [List.forall_mem_append]
  exact ⟨⟨⟨List.all_eq_true.1 root, isPlain_dnsName ns⟩, isPlain_slash⟩,
    List.all_eq_true.1 plural⟩

theorem sendable_resourcePath (h : r.Addressable) : Sendable (resourcePath r) := by
  have whole := sendable_collectionPath h.ns
  refine ⟨?_, ?_⟩
  · rw [resourcePath, String.toList_append, String.toList_append]
    simp only [List.forall_mem_append]
    exact ⟨⟨whole.chars, isPlain_slash⟩, isPlain_dnsName h.name⟩
  · have := length_collectionPath h.ns
    have := h.name.short
    have slash : "/".length = 1 := rfl
    rw [resourcePath, String.length_append, String.length_append, slash]
    omega

theorem createRequest_ok {resource : Resource} (h : resource.ref.Addressable) :
    createRequest resource = .ok
      { method := .post, path := collectionPath resource.ref, body := some resource.manifest } :=
  (sendable_collectionPath h.ns).request .post (by simp) _

theorem getRequest_ok (h : r.Addressable) :
    getRequest r = .ok { method := .get, path := resourcePath r } := by
  rw [getRequest, if_neg (by simpa using h.name.nonempty)]
  exact (sendable_resourcePath h).request .get (by simp) none

theorem deleteRequest_ok (h : r.Addressable) :
    deleteRequest r = .ok
      { method := .delete, path := resourcePath r, body := some (.object []) } := by
  rw [deleteRequest, if_neg (by simpa using h.name.nonempty)]
  exact (sendable_resourcePath h).request .delete (by simp) _

end Kube

end BrokerRollout
