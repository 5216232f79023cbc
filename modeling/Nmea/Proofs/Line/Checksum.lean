import Nmea.Line.Validator
import Nmea.Proofs.Text.Class
import Nmea.Proofs.Text.Cut

/-!
# Checksums of lines

The digits of a checksum are what every policy on checksums asks for, and the checksum of a line
depends only on what stands between its first character and its first `*`. It tells any two texts
there apart that differ in one printable character (`eq_of_xorBytes_append_cons`, `hexPair_inj`).
-/

namespace Nmea

/-! ### Digits -/

theorem isHexDigit_hexDigit : ∀ n < 16, isHexDigit (hexDigit n) = true := by decide

theorem isPrintable_of_isHexDigit {c : Char} (h : isHexDigit c = true) : isPrintable c = true := by
  rw [isPrintable_iff]
  simp only [isHexDigit, Bool.or_eq_true, Bool.and_eq_true, decide_eq_true_eq] at h
  rcases h with hd | ⟨hl, hu⟩
  · exact isPrintable_iff.mp (isPrintable_of_isAddressChar (by simp [isAddressChar, hd]))
  · exact ⟨Char.le_trans (by decide) hl, Char.le_trans hu (by decide)⟩

theorem all_isHexDigit_hexPair (b : UInt8) : (hexPair b).all isHexDigit = true := by
  have hb : b.toNat < 256 := b.toNat_lt
  have high := isHexDigit_hexDigit (b.toNat / 16) (by omega)
  have low := isHexDigit_hexDigit (b.toNat % 16) (by omega)
  simp [hexPair, high, low]

/-- The digits of a checksum satisfy the strictest policy. -/
theorem isChecksum_hexPair (b : UInt8) : isChecksum (hexPair b) = true := by
  simp only [isChecksum, length_hexPair, all_isHexDigit_hexPair, BEq.rfl, Bool.and_self]

theorem hexDigit_inj : ∀ n < 16, ∀ m < 16, hexDigit n = hexDigit m → n = m := by decide

theorem hexPair_inj {a b : UInt8} (h : hexPair a = hexPair b) : a = b := by
  have ha := a.toNat_lt
  have hb := b.toNat_lt
  simp only [hexPair, List.cons.injEq, and_true] at h
  have high := hexDigit_inj _ (by omega) _ (by omega) h.1
  have low := hexDigit_inj _ (by omega) _ (by omega) h.2
  exact UInt8.toNat_inj.mp (by omega)

/-! ### Spaces -/

/-- A text without spaces has none to be trimmed. -/
theorem trimSpaces_of_not_mem {t : Text} (h : ' ' ∉ t) : trimSpaces t = t := by
  have keep : ∀ {s : Text}, ' ' ∉ s → s.dropWhile (· = ' ') = s := by
    intro s hs
    cases s with
    | nil => rfl
    | cons c s =>
      refine List.dropWhile_cons_of_neg ?_
      simp only [decide_eq_true_eq]
      rintro rfl
      exact hs List.mem_cons_self
  have hr : ' ' ∉ t.reverse := by rwa [List.mem_reverse]
  rw [trimSpaces, keep h, keep hr, List.reverse_reverse]

theorem trimSpaces_hexPair (b : UInt8) : trimSpaces (hexPair b) = hexPair b :=
  trimSpaces_of_not_mem (not_mem_of_all (all_isHexDigit_hexPair b) rfl)

/-- A text with spaces in front of it and behind it. -/
def spaced (left right : Nat) (t : Text) : Text :=
  List.replicate left ' ' ++ t ++ List.replicate right ' '

@[simp] theorem length_spaced (left right : Nat) (t : Text) :
    (spaced left right t).length = left + t.length + right := by
  simp [spaced, Nat.add_assoc]

/-- Nothing but spaces is trimmed. -/
theorem exists_eq_spaced_trimSpaces (t : Text) :
    ∃ left right, t = spaced left right (trimSpaces t) := by
  have front (s : Text) : ∃ n, s = List.replicate n ' ' ++ s.dropWhile (· = ' ') := by
    refine ⟨(s.takeWhile (· = ' ')).length, ?_⟩
    have spaces : s.takeWhile (· = ' ') =
        List.replicate (s.takeWhile (· = ' ')).length ' ' := by
      refine List.eq_replicate_iff.mpr ⟨rfl, fun c hc => ?_⟩
      simpa using List.all_eq_true.mp List.all_takeWhile c hc
    rw [← spaces, List.takeWhile_append_dropWhile]
  obtain ⟨left, hl⟩ := front t
  obtain ⟨right, hr⟩ := front (t.dropWhile (· = ' ')).reverse
  have back := congrArg List.reverse hr
  rw [List.reverse_reverse, List.reverse_append, List.reverse_replicate] at back
  refine ⟨left, right, ?_⟩
  rw [spaced, List.append_assoc, trimSpaces, ← back]
  exact hl

/-- The spaces around a text that begins and ends with something else are trimmed. -/
theorem trimSpaces_spaced {s : Text} (hs : ' ' ∉ s) (hn : s ≠ []) (left right : Nat) :
    trimSpaces (spaced left right s) = s := by
  have drop (n : Nat) {t u : Text} (ht : ' ' ∉ t) (hn : t ≠ []) :
      (List.replicate n ' ' ++ (t ++ u)).dropWhile (· = ' ') = t ++ u := by
    refine dropWhile_append_stop (by simp) ?_
    obtain ⟨c, t, rfl⟩ := List.exists_cons_of_ne_nil hn
    intro d hd
    cases hd
    exact decide_eq_false fun e => ht (e ▸ List.mem_cons_self)
  have back := drop right (u := []) (t := s.reverse) (by simpa using hs) (by simpa using hn)
  rw [List.append_nil] at back
  rw [trimSpaces, spaced, List.append_assoc, drop left hs hn, List.reverse_append,
    List.reverse_replicate, back, List.reverse_reverse]

theorem all_isPrintable_spaced_hexPair (left right : Nat) (b : UInt8) :
    (spaced left right (hexPair b)).all isPrintable = true := by
  have digits := all_mono (fun _ => isPrintable_of_isHexDigit) (all_isHexDigit_hexPair b)
  have spaces (n : Nat) : (List.replicate n ' ').all isPrintable = true := by
    rw [List.all_eq_true]
    intro c hc
    rw [List.eq_of_mem_replicate hc]
    rfl
  rw [spaced, List.all_append, List.all_append, spaces, digits, spaces]
  rfl

/-! ### The exclusive or -/

theorem xorBytes_append (s t : Text) : xorBytes (s ++ t) = xorBytes s ^^^ xorBytes t := by
  have : Std.Associative fun a b : UInt8 => a ^^^ b := ⟨UInt8.xor_assoc⟩
  have start (bytes : List UInt8) (b : UInt8) :
      bytes.foldl (· ^^^ ·) b = b ^^^ bytes.foldl (· ^^^ ·) 0 := by
    have h : bytes.foldl (· ^^^ ·) (b ^^^ 0) = b ^^^ bytes.foldl (· ^^^ ·) 0 := List.foldl_assoc
    rwa [UInt8.xor_zero] at h
  rw [xorBytes, List.flatMap_append, List.foldl_append, start]
  rfl

/-- Printable characters have one byte each, by which they differ. -/
theorem eq_of_xorBytes_singleton {c d : Char} (hc : isPrintable c = true)
    (hd : isPrintable d = true) (h : xorBytes [c] = xorBytes [d]) : c = d := by
  have byte {e : Char} (he : isPrintable e = true) : (xorBytes [e]).toNat = e.val.toNat := by
    have hle : e.val.toNat ≤ 126 := (isPrintable_iff.mp he).2
    have one := String.utf8EncodeChar_eq_singleton (utf8Size_of_isPrintable he)
    simp only [xorBytes, List.flatMap_singleton, one, List.foldl_cons, List.foldl_nil,
      UInt8.zero_xor, UInt32.toNat_toUInt8]
    omega
  have same := congrArg UInt8.toNat h
  rw [byte hc, byte hd] at same
  exact Char.ext (UInt32.toNat_inj.mp same)

/-- One printable character in place of another changes the sum. -/
theorem eq_of_xorBytes_append_cons {c d : Char} {s t : Text} (hc : isPrintable c = true)
    (hd : isPrintable d = true) (h : xorBytes (s ++ c :: t) = xorBytes (s ++ d :: t)) :
    c = d := by
  have cons (e : Char) : xorBytes (e :: t) = xorBytes [e] ^^^ xorBytes t := xorBytes_append [e] t
  rw [xorBytes_append, xorBytes_append, UInt8.xor_right_inj, cons c, cons d,
    UInt8.xor_left_inj] at h
  exact eq_of_xorBytes_singleton hc hd h

/-! ### Lines -/

variable {line rest : Text}

/-- What stands at the first `*` and behind it has no part in the checksum. -/
theorem checksumOf_append_star (h : '*' ∉ line) :
    checksumOf (line ++ '*' :: rest) = hexPair (xorBytes (line.drop 1)) := by
  rw [checksumOf, textBefore_append_cons h]

end Nmea
