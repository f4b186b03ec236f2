import PublicationIndicator.Proofs.Decimal.Text
import PublicationIndicator.Proofs.Instant.Text
import PublicationIndicator.Proofs.Json.Records
import PublicationIndicator.Wire.Scalar

/-!
# PublicationIndicator.Proofs.Wire.Scalar — numbers, dates and collections stand for themselves

A decimal and an instant are found in their texts, a set in the list of its elements, and a map in the
object of its entries.
-/

namespace PublicationIndicator

open Json

/-! ### Sorted collections from what is in them -/

namespace SortedSet

variable {κ : Type} [Keyed κ]

theorem insertIn_of_forall_lt {a : κ} {l : List κ} (h : ∀ b ∈ l, key b < key a) :
    insertIn a l = l ++ [a] := by
  induction l with
  | nil => rfl
  | cons b l ih =>
    obtain ⟨hb, hl⟩ := List.forall_mem_cons.1 h
    have hlt : ¬ key a < key b := fun hlt => not_key_lt_self (key_lt_trans hb hlt)
    have hne : key a ≠ key b := by
      intro he
      rw [he] at hb
      exact not_key_lt_self hb
    rw [insertIn, if_neg hlt, if_neg hne, ih hl, List.cons_append]

theorem toList_foldl_insert {s : SortedSet κ} {l : List κ}
    (h : (s.toList ++ l).Pairwise fun a b => key a < key b) :
    (l.foldl insert s).toList = s.toList ++ l := by
  induction l generalizing s with
  | nil => exact (List.append_nil s.toList).symm
  | cons a l ih =>
    have hlast : (s.insert a).toList = s.toList ++ [a] :=
      insertIn_of_forall_lt fun b hb => (List.pairwise_append.1 h).2.2 b hb a List.mem_cons_self
    have hrest : (s.insert a).toList ++ l = s.toList ++ a :: l := by
      rw [hlast, List.append_assoc, List.singleton_append]
    rw [List.foldl_cons, ih (by rw [hrest]; exact h), hrest]

/-- A set is made of its elements. -/
theorem ofList_toList (s : SortedSet κ) : ofList s.toList = s :=
  ext (toList_foldl_insert s.ascending)

theorem stands {d : Decoder κ} {f : κ → Json} (s : SortedSet κ) (h : ∀ a ∈ s.toList, (f a).Stands d a) :
    (s.toJson f).Stands (SortedSet.decoder d) s := by
  have hlist := (stands_list h).map ofList
  rwa [ofList_toList] at hlist

end SortedSet

namespace SortedMap

variable {κ α : Type} [Keyed κ]

/-- A map is made of its entries. -/
theorem ofList_entries (m : SortedMap κ α) : ofList m.entries = m := by
  have hkeys : (m.entries.reverse.map Prod.fst).Nodup := by
    rw [List.map_reverse, List.Nodup, List.pairwise_reverse, List.pairwise_map]
    refine m.ascending.imp fun hlt he => ?_
    rw [← he] at hlt
    exact not_key_lt_self hlt
  refine ext_get? fun k => ?_
  rw [get?_ofList]
  cases hget : m.get? k with
  | some v =>
    exact lookupIn_of_mem_of_nodup hkeys (List.mem_reverse.2 (mem_entries_iff.2 hget))
  | none =>
    refine lookupIn_eq_none fun e he hk => ?_
    have hmem : (k, e.2) ∈ m.entries := hk ▸ List.mem_reverse.1 he
    rw [mem_entries_iff.1 hmem] at hget
    cases hget

theorem stands {d : Decoder α} {f : α → Json} (m : SortedMap κ α) (name : String → κ)
    (hname : ∀ k : κ, name (key k) = k) (h : ∀ e ∈ m.entries, (f e.2).Stands d e.2) :
    (m.toJson f).Stands (SortedMap.decoder name d) m where
  plain := isPlainFields_iff.2 (List.forall_mem_map.2 fun e he => (h e he).plain)
  decode := by
    have hvalues : namedValues d (m.toJson f) = .ok (m.entries.map fun e => (key e.1, e.2)) :=
      mapM_map_eq_ok _ fun e he => by
        simp only [(h e he).decode]
        rfl
    have hentries : (m.entries.map fun e => (key e.1, e.2)).map (fun e => (name e.1, e.2)) = m.entries := by
      simp [Function.comp_def, hname]
    rw [decoder, Decoder.map, hvalues]
    change Except.ok (ofList ((m.entries.map fun e => (key e.1, e.2)).map fun e => (name e.1, e.2))) = _
    rw [hentries, ofList_entries]

end SortedMap

/-! ### Names, numbers and dates -/

theorem OrganizationId.stands (id : OrganizationId) : id.toJson.Stands decoder id :=
  (stands_string id.text).map OrganizationId.mk

theorem PublicationId.stands (id : PublicationId) : id.toJson.Stands decoder id :=
  (stands_string id.text).map PublicationId.mk

theorem CandidateId.stands (id : CandidateId) : id.toJson.Stands decoder id :=
  (stands_string id.text).map CandidateId.mk

theorem Username.stands (u : Username) : u.toJson.Stands decoder u :=
  (stands_string u.text).map Username.mk

/-- The form of the decimal is kept, not only its value. -/
theorem Decimal.stands (d : Decimal) : d.toJson.Stands decoder d where
  plain := rfl
  decode := by
    rw [toJson, decoder, ofNotation?, ofText?_text]
    rfl

theorem Instant.stands (t : Instant) (h : 0 ≤ t.date.year ∧ t.date.year ≤ 9999) :
    t.toJson.Stands decoder t where
  plain := rfl
  decode := by
    rw [toJson, decoder, Decoder.mapPartial]
    simp only [Decoder.string, ofText?_text t h]

/-! ### Fields that may be missing -/

section

variable {α : Type} {name : String} {f : α → Json} {o : Option α}

theorem keys_fieldOf (name : String) (f : α → Json) (o : Option α) :
    ((fieldOf name f o).map Prod.fst).Sublist [name] := by
  cases o with
  | none => exact List.nil_sublist _
  | some a => exact .refl _

theorem lookup_fieldOf (name name' : String) (f : α → Json) (o : Option α) :
    (fieldOf name f o).lookup name' = if name' = name then o.map f else none := by
  cases o with
  | none => simp [fieldOf]
  | some a =>
    by_cases hname : name' = name
    · simp [fieldOf, hname]
    · simp [fieldOf, List.lookup_cons, beq_false_of_ne hname, hname]

theorem plain_fieldOf {d : Decoder α} (h : ∀ a, o = some a → (f a).Stands d a) :
    ∀ field ∈ fieldOf name f o, field.2.isPlain = true := by
  cases o with
  | none => simp [fieldOf]
  | some a => simp [fieldOf, (h a rfl).plain]

end

end PublicationIndicator
