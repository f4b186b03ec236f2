import Mathlib.Data.List.TakeWhile
import PublicationIndicator.Http.Percent
import PublicationIndicator.Http.Route
import PublicationIndicator.Http.Target

/-!
# PublicationIndicator.Proofs.Http.Percent — a text comes back from its segment

What `Percent.encode` writes of a text is read back as the text (`decode?_encode`).  It may stand in a
path, where it is one segment, since there is no slash in it (`of_mem_encode`, `segments_append`).
-/

namespace PublicationIndicator

namespace Percent

open Text

/-! ### Bytes -/

theorem bytes_ofList (cs : List Char) :
    (String.ofList cs).toUTF8.data.toList = cs.flatMap String.utf8EncodeChar := by
  change (cs.flatMap String.utf8EncodeChar).toByteArray.data.toList = _
  rw [List.data_toByteArray]

theorem fromUTF8?_bytes (s : String) :
    String.fromUTF8? s.toUTF8.data.toList.toByteArray = some s := by
  have hbytes : s.toUTF8.data.toList.toByteArray = s.toByteArray := by
    apply ByteArray.ext
    rw [List.data_toByteArray]
    rfl
  rw [hbytes, String.fromUTF8?, dif_pos s.isValidUTF8]
  rfl

/-- A byte that stands for itself is one of ASCII, and no percent sign. -/
theorem bytes_of_isPlain {b : UInt8} (h : isPlain b = true) :
    String.utf8EncodeChar (Char.ofNat b.toNat) = [b] ∧ b ≠ 37 := by
  have hall : ∀ n < 256, isPlain (UInt8.ofNat n) = true →
      String.utf8EncodeChar (Char.ofNat (UInt8.ofNat n).toNat) = [UInt8.ofNat n] ∧
        UInt8.ofNat n ≠ 37 := by decide +kernel
  have hb := hall b.toNat b.toNat_lt
  rw [UInt8.ofNat_toNat] at hb
  exact hb h

/-- The digits of a byte are those of its two halves. -/
theorem hexValue?_hexDigit {n : Nat} (h : n < 16) :
    String.utf8EncodeChar (hexDigit n) = [(hexDigit n).toUInt8] ∧
      hexValue? (Char.ofNat (hexDigit n).toUInt8.toNat) = some n := by
  revert n
  decide

theorem decodeBytes_cons {b : UInt8} (h : b ≠ 37) (rest : List UInt8) :
    decodeBytes (b :: rest) = b :: decodeBytes rest := by
  rw [decodeBytes]
  exact fun _ _ _ hb => absurd hb h

theorem decodeBytes_percent {high low b : UInt8} (h : byte? high low = some b) (rest : List UInt8) :
    decodeBytes (37 :: high :: low :: rest) = b :: decodeBytes rest := by
  simp only [decodeBytes, h]

/-- A byte that is written is read back. -/
theorem decodeBytes_encodeByte (b : UInt8) (rest : List UInt8) :
    decodeBytes ((encodeByte b).flatMap String.utf8EncodeChar ++ rest) = b :: decodeBytes rest := by
  rw [encodeByte]
  split
  · rename_i hplain
    obtain ⟨hbytes, hb⟩ := bytes_of_isPlain hplain
    rw [List.flatMap_singleton, hbytes]
    exact decodeBytes_cons hb rest
  · have hlt : b.toNat < 256 := b.toNat_lt
    obtain ⟨hhigh, hhighValue⟩ := hexValue?_hexDigit (n := b.toNat / 16) (by omega)
    obtain ⟨hlow, hlowValue⟩ := hexValue?_hexDigit (n := b.toNat % 16) (by omega)
    have hbyte : byte? (hexDigit (b.toNat / 16)).toUInt8 (hexDigit (b.toNat % 16)).toUInt8 =
        some b := by
      simp only [byte?, hhighValue, hlowValue, Option.bind_eq_bind, Option.bind_some,
        Nat.div_add_mod, UInt8.ofNat_toNat]
    have hpercent : String.utf8EncodeChar '%' = [37] := by decide
    simp only [List.flatMap_cons, List.flatMap_nil, hpercent, hhigh, hlow]
    exact decodeBytes_percent hbyte rest

theorem decodeBytes_flatMap_encodeByte (bytes : List UInt8) :
    decodeBytes ((bytes.flatMap encodeByte).flatMap String.utf8EncodeChar) = bytes := by
  induction bytes with
  | nil => rfl
  | cons b rest ih =>
    rw [List.flatMap_cons, List.flatMap_append, decodeBytes_encodeByte, ih]

/-! ### Texts -/

/-- What is written of a text is read back as the text. -/
theorem decode?_encode (s : String) : decode? (encode s) = some s := by
  rw [decode?, encode, bytes_ofList, decodeBytes_flatMap_encodeByte, fromUTF8?_bytes]

/-- Different texts are written differently. -/
theorem encode_inj {s t : String} : encode s = encode t ↔ s = t := by
  constructor
  · intro h
    have hdecoded := congrArg decode? h
    rw [decode?_encode, decode?_encode] at hdecoded
    exact Option.some.inj hdecoded
  · rintro rfl
    rfl

/-- Whatever is written may stand in a segment of a path. -/
theorem of_mem_encode {s : String} {c : Char} (h : c ∈ (encode s).toList) :
    c ≠ '/' ∧ Target.isPathChar c = true := by
  have hall : ∀ n < 256, (encodeByte (UInt8.ofNat n)).all
      (fun c => c != '/' && Target.isPathChar c) = true := by decide +kernel
  rw [encode, String.toList_ofList] at h
  obtain ⟨b, -, hc⟩ := List.mem_flatMap.1 h
  have hb := hall b.toNat b.toNat_lt
  rw [UInt8.ofNat_toNat] at hb
  simpa only [Bool.and_eq_true, bne_iff_ne] using List.all_eq_true.1 hb c hc

end Percent

/-! ### Segments -/

namespace Route

theorem exists_segments (cs : List Char) : ∃ s more, segments cs = s :: more := by
  cases cs with
  | nil => exact ⟨_, _, rfl⟩
  | cons c rest =>
    rw [segments]
    split
    · exact ⟨_, _, rfl⟩
    · split <;> exact ⟨_, _, rfl⟩

theorem segments_of_not_mem {cs : List Char} (h : '/' ∉ cs) : segments cs = [cs] := by
  induction cs with
  | nil => rfl
  | cons c rest ih =>
    rw [List.mem_cons, not_or] at h
    rw [segments, if_neg (Ne.symm h.1), ih h.2]

/-- A slash stands between segments. -/
theorem segments_append (cs rest : List Char) :
    segments (cs ++ '/' :: rest) = segments cs ++ segments rest := by
  induction cs with
  | nil => simp [segments]
  | cons c cs ih =>
    rw [List.cons_append, segments, segments, ih]
    split
    · rfl
    · obtain ⟨s, more, hs⟩ := exists_segments cs
      rw [hs]
      rfl

end Route

/-! ### Targets -/

/-- A target of path characters only that starts with a slash is a path. -/
theorem Target.path?_of_forall {target : String} {rest : List Char} (h : target.toList = '/' :: rest)
    (hchars : ∀ c ∈ rest, isPathChar c = true) (hlength : target.utf8ByteSize ≤ lengthLimit) :
    path? target = some target := by
  have hall : ∀ c ∈ '/' :: rest, isPathChar c = true := by
    intro c hc
    rcases List.mem_cons.1 hc with rfl | hc
    · decide
    · exact hchars c hc
  have htake : ('/' :: rest).takeWhile isPathChar = '/' :: rest := List.takeWhile_eq_self_iff.2 hall
  have hdrop : ('/' :: rest).dropWhile isPathChar = [] := List.dropWhile_eq_nil_iff.2 hall
  have htarget : String.ofList ('/' :: rest) = target := by rw [← h, String.ofList_toList]
  simp only [path?, h, Nat.not_lt.2 hlength, if_false, pathOf?, htake, hdrop, reduceCtorEq, htarget]

end PublicationIndicator
