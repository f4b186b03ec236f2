import PublicationIndicator.Json.Decode
import PublicationIndicator.Proofs.Json.Reading

/-!
# PublicationIndicator.Proofs.Json.Records — decoders find what was written

`Json.Stands` says that a JSON value is written in full and that a decoder finds a certain value in it;
then the decoder finds it in the text, too (`Stands.ofText_compact`).  Here are the laws by which records
and lists stand for their values if their parts do.
-/

namespace PublicationIndicator

open Decoder

variable {α β : Type} {d : Decoder α} {a : α} {j : Json}

/-- The value is plain, and the decoder finds `a` in it. -/
structure Json.Stands (d : Decoder α) (a : α) (j : Json) : Prop where
  plain : j.isPlain = true
  decode : d j = .ok a

namespace Json

/-- What stands for `a` is written as a text in which `a` is found. -/
theorem Stands.ofText_compact (h : j.Stands d a) : d.ofText j.compact = .ok a := by
  rw [ofText, read_compact h.plain]
  simp only [h.decode]
  rfl

theorem Stands.ofFrontOfText_compact (h : j.Stands d a) : d.ofFrontOfText j.compact = .ok a := by
  rw [ofFrontOfText, read_compact h.plain]
  exact h.decode

/-! ### Scalars -/

theorem Stands.map (h : j.Stands d a) (f : α → β) : j.Stands (d.map f) (f a) where
  plain := h.plain
  decode := by
    rw [Decoder.map, h.decode]
    rfl

theorem Stands.mapPartial (h : j.Stands d a) {f : α → Option β} {b : β} (hf : f a = some b) :
    j.Stands (d.mapPartial f) b where
  plain := h.plain
  decode := by
    rw [Decoder.mapPartial, h.decode]
    simp only [hf]

theorem stands_string (s : String) : (Json.string s).Stands Decoder.string s := ⟨rfl, rfl⟩

theorem stands_bool (b : Bool) : (Json.bool b).Stands Decoder.bool b := ⟨rfl, rfl⟩

theorem stands_natBelow {n bound : Nat} (h : n < bound) (hbound : bound ≤ 18446744073709551616) :
    (Json.ofNat n).Stands (natBelow bound) n where
  plain := by
    simp only [ofNat, isPlain, fitsWord, decide_eq_true_eq]
    omega
  decode := by
    have hrange : (0 : Int) ≤ n ∧ (n : Int) < bound := by omega
    simp only [ofNat, natBelow, hrange, and_self, if_true, Int.toNat_natCast]

/-! ### What may be missing -/

theorem stands_none : Json.null.Stands d.option none := ⟨rfl, rfl⟩

theorem Stands.some (h : j.Stands d a) (hnull : j ≠ .null) : j.Stands d.option (some a) where
  plain := h.plain
  decode := by
    cases j with
    | null => exact absurd rfl hnull
    | _ =>
      rw [option, h.decode]
      · rfl
      · exact hnull

/-! ### Lists -/

theorem isPlainItems_iff {items : List Json} :
    isPlainItems items = true ↔ ∀ j ∈ items, j.isPlain = true := by
  induction items with
  | nil => simp [isPlainItems]
  | cons j items ih => rw [isPlainItems_cons, ih, List.forall_mem_cons]

theorem isPlainFields_iff {fields : List (String × Json)} :
    isPlainFields fields = true ↔ ∀ f ∈ fields, f.2.isPlain = true := by
  induction fields with
  | nil => simp [isPlainFields]
  | cons f fields ih => rw [isPlainFields_cons, ih, List.forall_mem_cons]

/-- A traversal of which each step is known. -/
theorem mapM_map_eq_ok {γ δ : Type} {f : β → γ} {g : γ → Except Fault δ} {l : List β} (result : β → δ)
    (h : ∀ b ∈ l, g (f b) = .ok (result b)) : (l.map f).mapM g = .ok (l.map result) := by
  induction l with
  | nil => rfl
  | cons b l ih =>
    obtain ⟨hb, hl⟩ := List.forall_mem_cons.1 h
    rw [List.map_cons, List.mapM_cons, hb, ih hl]
    rfl

theorem stands_list {f : α → Json} {l : List α} (h : ∀ a ∈ l, (f a).Stands d a) :
    (Json.array (l.map f)).Stands (Decoder.list d) l where
  plain := isPlainItems_iff.2 (List.forall_mem_map.2 fun a ha => (h a ha).plain)
  decode := by
    have hsteps := mapM_map_eq_ok id fun a ha => (h a ha).decode
    rwa [List.map_id] at hsteps

end Json

/-! ### Members of an object -/

/-- Readings without a fault are without a fault together. -/
theorem Reading.all_eq_pure {rs : List (Reading Unit)} (h : ∀ r ∈ rs, r = pure ()) :
    Reading.all rs = pure () := by
  induction rs with
  | nil => rfl
  | cons r rs ih =>
    obtain ⟨hr, hrs⟩ := List.forall_mem_cons.1 h
    change Reading.after r (Reading.all rs) = pure ()
    rw [hr, ih hrs]
    rfl

namespace Members

variable {fields : List (String × Json)} {name : String} {o : Option α} {f : α → Json}

theorem map_find?_zipIdx (fields : List (String × Json)) (n : Nat) (name : String) :
    ((fields.zipIdx n).find? fun f => f.1.1 == name).map (fun f => f.1.2) = fields.lookup name := by
  induction fields generalizing n with
  | nil => rfl
  | cons f fields ih =>
    obtain ⟨name', j⟩ := f
    rw [List.zipIdx_cons, List.find?_cons, List.lookup_cons]
    by_cases hname : name = name'
    · simp [hname]
    · rw [beq_false_of_ne hname, beq_false_of_ne (Ne.symm hname)]
      exact ih (n + 1)

/-- A member is found under its name. -/
theorem map_find?_ofFields : ((ofFields fields).find? name).map Prod.snd = fields.lookup name := by
  rw [← map_find?_zipIdx fields 0 name, ofFields, Option.map_map]
  rfl

theorem withDefault_of_lookup {b : α} (h : fields.lookup name = some j) (hj : j.Stands d a) :
    (ofFields fields).withDefault name b d = pure a := by
  rw [← map_find?_ofFields, Option.map_eq_some_iff] at h
  obtain ⟨⟨i, _⟩, hfind, rfl⟩ := h
  simp only [withDefault, hfind, hj.decode]
  rfl

theorem required_of_lookup (h : fields.lookup name = some j) (hj : j.Stands d a) :
    (ofFields fields).required name d = pure a := by
  rw [← map_find?_ofFields, Option.map_eq_some_iff] at h
  obtain ⟨⟨i, _⟩, hfind, rfl⟩ := h
  simp only [required, hfind, hj.decode]
  rfl

/-- A member that is left out where there is nothing is found where there is something. -/
theorem optional_of_lookup (h : fields.lookup name = o.map f)
    (ho : ∀ a, o = some a → (f a).Stands d a ∧ f a ≠ .null) :
    (ofFields fields).optional name d = pure o := by
  cases o with
  | none =>
    rw [← map_find?_ofFields, Option.map_none, Option.map_eq_none_iff] at h
    simp only [optional, withDefault, h]
  | some a =>
    obtain ⟨hstands, hnull⟩ := ho a rfl
    exact withDefault_of_lookup h (hstands.some hnull)

/-- Fields with different names, all of them known, are in order. -/
theorem audit_of_sublist {names : List String} (h : (fields.map Prod.fst).Sublist names)
    (hnames : names.Nodup) : audit names fields = pure () := by
  refine Reading.all_eq_pure fun r hr => ?_
  obtain ⟨⟨⟨name, j⟩, i⟩, hmem, rfl⟩ := List.mem_map.1 hr
  have hi : fields[i]? = some (name, j) := List.mem_zipIdx_iff_getElem?.1 hmem
  have hname : name ∈ fields.map Prod.fst :=
    List.mem_map.2 ⟨(name, j), List.mem_of_getElem? hi, rfl⟩
  have hknown : names.contains name = true := List.contains_iff_mem.2 (h.subset hname)
  have hfirst : (fields.take i).any (fun g => g.1 == name) = false := by
    have hnodup := h.nodup hnames
    rw [← List.take_append_drop i fields, List.map_append, List.nodup_append] at hnodup
    obtain ⟨-, -, hdisjoint⟩ := hnodup
    refine List.any_eq_false.2 fun g hg hgname => ?_
    have hg : name ∈ (fields.take i).map Prod.fst := List.mem_map.2 ⟨g, hg, eq_of_beq hgname⟩
    have hlater : name ∈ (fields.drop i).map Prod.fst := by
      refine List.mem_map.2 ⟨(name, j), List.mem_of_getElem? (i := 0) ?_, rfl⟩
      rw [List.getElem?_drop, Nat.add_zero, hi]
    exact hdisjoint name hg name hlater rfl
  simp only [hknown, hfirst, if_true, Bool.false_eq_true, if_false]

end Members

/-- A record stands for the value that is built from its fields. -/
theorem Json.stands_record {names : List String} {build : Members → Reading α}
    {fields : List (String × Json)} (hfields : (fields.map Prod.fst).Sublist names)
    (hnames : names.Nodup) (hplain : ∀ f ∈ fields, f.2.isPlain = true)
    (hbuild : build (.ofFields fields) = pure a) :
    (Json.object fields).Stands (record names build) a where
  plain := isPlainFields_iff.2 hplain
  decode := by
    simp only [record, Members.audit_of_sublist hfields hnames, hbuild]
    rfl

end PublicationIndicator
