import Mathlib.Data.List.TakeWhile
import Flowline.Text.Utf8

/-!
The bytes of a text are read back as this text. Of each character the bytes are a start byte, which
tells how many others follow, and those others, which tell together with it which character it is.
-/

namespace Flowline.Text.Utf8

variable {c : Char} {first : UInt8} {cont : List UInt8} {n m : Nat}

/-- Bytes after a start byte that no reader takes for the end of a character: the first fits the start
byte and all others continue it. -/
def Continues (first : UInt8) : List UInt8 → Prop
  | [] => True
  | second :: more => isSecond first second = true ∧ ∀ b ∈ more, isContinuation b = true

/-- A start byte and the bytes after it that write a character. -/
structure Writes (first : UInt8) (cont : List UInt8) (c : Char) : Prop where
  following : following? first = some cont.length
  continues : Continues first cont
  codePoint : codePoint first cont = c.toNat

theorem continuations_append (h : Continues first cont) (rest : List UInt8) :
    continuations first cont.length (cont ++ rest) = cont := by
  cases cont with
  | nil => cases rest <;> rfl
  | cons second more =>
      obtain ⟨hSecond, hMore⟩ := h
      rw [List.cons_append, continuations, List.length_cons, if_pos (by simp [hSecond]),
        Nat.add_sub_cancel, List.take_left, List.takeWhile_eq_self_iff.mpr hMore]

/-- A character is read from its bytes, whatever comes after them. -/
theorem decodeFrom_writes (h : Writes first cont c) (rest : List UInt8) (position : Nat) :
    decodeFrom position (first :: (cont ++ rest)) =
      (decodeFrom (position + 1 + cont.length) rest).map (c :: ·) := by
  rw [decodeFrom]
  simp only [h.following, continuations_append h.continues, if_true, List.drop_left, h.codePoint,
    Char.ofNat_toNat]
  cases decodeFrom (position + 1 + cont.length) rest <;> rfl

theorem toNat_ofNat (h : n < 256) : (UInt8.ofNat n).toNat = n := UInt8.toNat_ofNat_of_lt' h

/-- How many bytes follow a start byte, told by its number. -/
theorem following?_ofNat (h : n < 256) :
    following? (UInt8.ofNat n) =
      if n < 128 then some 0
      else if 194 ≤ n ∧ n ≤ 223 then some 1
      else if 224 ≤ n ∧ n ≤ 239 then some 2
      else if 240 ≤ n ∧ n ≤ 244 then some 3
      else none := by
  simp only [following?, UInt8.lt_iff_toNat_lt, UInt8.le_iff_toNat_le, toNat_ofNat h,
    Bool.and_eq_true, decide_eq_true_eq]
  rfl

theorem isContinuation_ofNat (h : n < 64) : isContinuation (UInt8.ofNat (n + 128)) = true := by
  have hByte := toNat_ofNat (n := n + 128) (by omega)
  simp only [isContinuation, UInt8.le_iff_toNat_le, hByte, Bool.and_eq_true, decide_eq_true_eq,
    UInt8.reduceToNat]
  omega

/-- Which bytes can be second, told by the numbers of both bytes. -/
theorem isSecond_ofNat (hFirst : m < 256) (h : n < 64) (h224 : m = 224 → 32 ≤ n)
    (h237 : m = 237 → n < 32) (h240 : m = 240 → 16 ≤ n) (h244 : m = 244 → n < 16) :
    isSecond (UInt8.ofNat m) (UInt8.ofNat (n + 128)) = true := by
  have hByte := toNat_ofNat (n := n + 128) (by omega)
  simp only [isSecond, isContinuation_ofNat h, Bool.true_and, UInt8.le_iff_toNat_le, hByte, ne_eq,
    ← UInt8.toNat_inj, toNat_ofNat hFirst, Bool.and_eq_true, Bool.or_eq_true, decide_eq_true_eq,
    UInt8.reduceToNat]
  omega

/-- A code point lies below the greatest one and is no surrogate. -/
theorem isCodePoint (c : Char) : c.toNat < 0xd800 ∨ (0xdfff < c.toNat ∧ c.toNat < 0x110000) :=
  c.valid

theorem writes_one (h : c.toNat < 128) : Writes (UInt8.ofNat c.toNat) [] c where
  following := by rw [following?_ofNat (by omega), if_pos h, List.length_nil]
  continues := trivial
  codePoint := toNat_ofNat (by omega)

/-! Where several bytes write a character, each byte after the first holds six bits of its number. -/

variable {a b d e : Nat}

theorem writes_two (h : c.toNat = 64 * a + b) (hLeast : 2 ≤ a) (ha : a < 32) (hb : b < 64) :
    Writes (UInt8.ofNat (a + 192)) [UInt8.ofNat (b + 128)] c where
  following := by
    rw [following?_ofNat (by omega), if_neg (by omega), if_pos (by omega), List.length_singleton]
  continues := by
    refine ⟨isSecond_ofNat (by omega) hb (by omega) (by omega) (by omega) (by omega), fun _ hMem => ?_⟩
    cases hMem
  codePoint := by
    simp only [Utf8.codePoint, List.length_cons, List.length_nil, List.foldl_cons, List.foldl_nil]
    rw [toNat_ofNat (by omega), toNat_ofNat (by omega)]
    omega

theorem writes_three (h : c.toNat = 4096 * a + 64 * b + d) (hLeast : a = 0 → 32 ≤ b)
    (hSurrogate : a = 13 → b < 32) (ha : a < 16) (hb : b < 64) (hd : d < 64) :
    Writes (UInt8.ofNat (a + 224)) [UInt8.ofNat (b + 128), UInt8.ofNat (d + 128)] c where
  following := by
    rw [following?_ofNat (by omega), if_neg (by omega), if_neg (by omega), if_pos (by omega)]
    rfl
  continues := by
    refine ⟨isSecond_ofNat (by omega) hb (by omega) (by omega) (by omega) (by omega), ?_⟩
    exact List.forall_mem_singleton.mpr (isContinuation_ofNat hd)
  codePoint := by
    simp only [Utf8.codePoint, List.length_cons, List.length_nil, List.foldl_cons, List.foldl_nil]
    rw [toNat_ofNat (by omega), toNat_ofNat (by omega), toNat_ofNat (by omega)]
    omega

theorem writes_four (h : c.toNat = 262144 * a + 4096 * b + 64 * d + e) (hLeast : a = 0 → 16 ≤ b)
    (hMost : a = 4 → b < 16) (ha : a < 5) (hb : b < 64) (hd : d < 64) (he : e < 64) :
    Writes (UInt8.ofNat (a + 240))
      [UInt8.ofNat (b + 128), UInt8.ofNat (d + 128), UInt8.ofNat (e + 128)] c where
  following := by
    rw [following?_ofNat (by omega), if_neg (by omega), if_neg (by omega), if_neg (by omega),
      if_pos (by omega)]
    rfl
  continues := by
    refine ⟨isSecond_ofNat (by omega) hb (by omega) (by omega) (by omega) (by omega), ?_⟩
    exact List.forall_mem_cons.mpr
      ⟨isContinuation_ofNat hd, List.forall_mem_singleton.mpr (isContinuation_ofNat he)⟩
  codePoint := by
    simp only [Utf8.codePoint, List.length_cons, List.length_nil, List.foldl_cons, List.foldl_nil]
    rw [toNat_ofNat (by omega), toNat_ofNat (by omega), toNat_ofNat (by omega), toNat_ofNat (by omega)]
    omega

/-- The bytes of a character write it. -/
theorem exists_writes (c : Char) :
    ∃ first cont, String.utf8EncodeChar c = first :: cont ∧ Writes first cont c := by
  have hValid := isCodePoint c
  have hNumber : c.val.toNat = c.toNat := rfl
  simp only [String.utf8EncodeChar, hNumber]
  split
  · exact ⟨_, _, rfl, writes_one (by omega)⟩
  split
  · exact ⟨_, _, rfl, writes_two (by omega) (by omega) (by omega) (by omega)⟩
  split
  · exact ⟨_, _, rfl, writes_three (by omega) (by omega) (by omega) (by omega) (by omega) (by omega)⟩
  · exact ⟨_, _, rfl, writes_four (by omega) (by omega) (by omega) (by omega) (by omega) (by omega)
      (by omega)⟩

/-- The characters of a text are read from its bytes, and then what comes after them. -/
theorem decodeFrom_encode (cs : List Char) (position : Nat) :
    decodeFrom position (cs.flatMap String.utf8EncodeChar) = .ok cs := by
  induction cs generalizing position with
  | nil => rw [List.flatMap_nil, decodeFrom]
  | cons c rest ih =>
      obtain ⟨first, cont, hBytes, hWrites⟩ := exists_writes c
      rw [List.flatMap_cons, hBytes, List.cons_append, decodeFrom_writes hWrites, ih]
      rfl

/-- A text is read back from its bytes. -/
theorem decode_encode (s : String) : decode (encode s) = .ok s := by
  rw [decode, encode, decodeFrom_encode]
  exact congrArg Except.ok String.ofList_toList

end Flowline.Text.Utf8
