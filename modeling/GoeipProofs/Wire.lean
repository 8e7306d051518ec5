import Mathlib.Data.UInt
import Mathlib.Data.List.Basic

/-!
Byte-level vocabulary shared by every codec of the library: the little-endian
fixed-width fields of `encoding/binary`, the `io.ReadFull` and `bytes.Reader`
reads the decoders are written with, and the error and panic values the
modelled Go code produces.
-/

namespace GoeipProofs.Wire

/-- A Go `[]byte`, as the values it holds. -/
abbrev Bytes := List UInt8

/-- Two results are equal when both are errors with equal errors or both are values with
equal values. -/
instance instDecidableEqExcept {ε α : Type} [DecidableEq ε] [DecidableEq α] :
    DecidableEq (Except ε α)
  | .ok a, .ok b => if h : a = b then isTrue (h ▸ rfl) else isFalse fun e => by cases e; exact h rfl
  | .error a, .error b =>
      if h : a = b then isTrue (h ▸ rfl) else isFalse fun e => by cases e; exact h rfl
  | .ok _, .error _ => isFalse fun e => by cases e
  | .error _, .ok _ => isFalse fun e => by cases e

@[simp] theorem uint8_toNat_ofNat (n : Nat) : (UInt8.ofNat n).toNat = n % 256 := by
  simp [UInt8.toNat, UInt8.ofNat]

@[simp] theorem uint16_toNat_ofNat (n : Nat) : (UInt16.ofNat n).toNat = n % 65536 := by
  simp [UInt16.toNat, UInt16.ofNat]

@[simp] theorem uint32_toNat_ofNat (n : Nat) :
    (UInt32.ofNat n).toNat = n % 4294967296 := by
  simp [UInt32.toNat, UInt32.ofNat]

@[simp] theorem uint8_ofNat_toNat (v : UInt8) : UInt8.ofNat v.toNat = v :=
  UInt8.toNat.inj (by simpa using Nat.mod_eq_of_lt v.toNat_lt_size)

@[simp] theorem uint16_ofNat_toNat (v : UInt16) : UInt16.ofNat v.toNat = v :=
  UInt16.toNat.inj (by simpa using Nat.mod_eq_of_lt v.toNat_lt_size)

@[simp] theorem uint32_ofNat_toNat (v : UInt32) : UInt32.ofNat v.toNat = v :=
  UInt32.toNat.inj (by simpa using Nat.mod_eq_of_lt v.toNat_lt_size)

theorem uint8_toNat_lt (v : UInt8) : v.toNat < 256 := v.toNat_lt_size

theorem uint16_toNat_lt (v : UInt16) : v.toNat < 65536 := v.toNat_lt_size

theorem uint32_toNat_lt (v : UInt32) : v.toNat < 4294967296 := v.toNat_lt_size

theorem uint32_toNat_add (a b : UInt32) : (a + b).toNat = (a.toNat + b.toNat) % 4294967296 := by
  simp [UInt32.add_def, UInt32.toNat, BitVec.toNat_add]

theorem toNat_toUInt16_of_le {v : UInt32} (h : v.toNat ≤ 0xFFFF) : v.toUInt16.toNat = v.toNat :=
  Nat.mod_eq_of_lt (Nat.lt_succ_of_le h)

theorem toUInt16_toUInt8_of_le {v : UInt16} (h : v ≤ 0xFF) : v.toUInt8.toUInt16 = v :=
  UInt16.toNat.inj (Nat.mod_eq_of_lt (Nat.lt_succ_of_le h))

theorem toUInt32_toUInt8_of_le {v : UInt32} (h : v ≤ 0xFF) : v.toUInt8.toUInt32 = v :=
  UInt32.toNat.inj (Nat.mod_eq_of_lt (Nat.lt_succ_of_le h))

theorem toUInt32_toUInt16_of_le {v : UInt32} (h : v ≤ 0xFFFF) : v.toUInt16.toUInt32 = v :=
  UInt32.toNat.inj (toNat_toUInt16_of_le h)

theorem ofNat_le_toUInt32_iff {n : Nat} (h : n < 4294967296) (m : UInt16) :
    UInt32.ofNat n ≤ m.toUInt32 ↔ n ≤ m.toNat := by
  show (UInt32.ofNat n).toNat ≤ m.toUInt32.toNat ↔ _
  rw [uint32_toNat_ofNat, Nat.mod_eq_of_lt h]
  rfl

theorem ofNat_add_one (n : Nat) : UInt32.ofNat n + 1 = UInt32.ofNat (n + 1) :=
  UInt32.toNat.inj (by simp [uint32_toNat_add])

/-- The `width` low-order bytes of `n`, least significant first
(`binary.LittleEndian.PutUint16`, `PutUint32`). -/
def leBytes : Nat → Nat → Bytes
  | 0, _ => []
  | width + 1, n => UInt8.ofNat n :: leBytes width (n / 256)

/-- The number a little-endian byte string denotes (`binary.LittleEndian.Uint16`,
`Uint32`). -/
def leValue : Bytes → Nat
  | [] => 0
  | b :: bs => b.toNat + 256 * leValue bs

@[simp] theorem length_leBytes (width n : Nat) : (leBytes width n).length = width := by
  induction width generalizing n with
  | zero => rfl
  | succ width ih => simp [leBytes, ih]

theorem leValue_leBytes (width n : Nat) : leValue (leBytes width n) = n % 256 ^ width := by
  induction width generalizing n with
  | zero => simp [leBytes, leValue, Nat.mod_one]
  | succ width ih =>
      simp only [leBytes, leValue, uint8_toNat_ofNat, ih]
      rw [pow_succ', Nat.mod_mul]

theorem leValue_lt (bs : Bytes) : leValue bs < 256 ^ bs.length := by
  induction bs with
  | nil => simp [leValue]
  | cons b bs ih =>
      have hb := uint8_toNat_lt b
      simp only [leValue, List.length_cons, pow_succ]
      omega

theorem leBytes_leValue (bs : Bytes) : leBytes bs.length (leValue bs) = bs := by
  induction bs with
  | nil => rfl
  | cons b bs ih =>
      have hb := uint8_toNat_lt b
      have hdiv : (b.toNat + 256 * leValue bs) / 256 = leValue bs := by omega
      have hmod : UInt8.ofNat (b.toNat + 256 * leValue bs) = b := by
        apply UInt8.toNat.inj
        rw [uint8_toNat_ofNat]
        omega
      rw [List.length_cons, leBytes, leValue, hdiv, ih, hmod]

/-- `binary.LittleEndian.PutUint16` into a fresh two-byte slice. -/
def putUint16 (v : UInt16) : Bytes := leBytes 2 v.toNat

/-- `binary.LittleEndian.PutUint32` into a fresh four-byte slice. -/
def putUint32 (v : UInt32) : Bytes := leBytes 4 v.toNat

/-- `binary.LittleEndian.Uint16` of the first two bytes. -/
def uint16 (b : Bytes) : UInt16 := UInt16.ofNat (leValue (b.take 2))

/-- `binary.LittleEndian.Uint32` of the first four bytes. -/
def uint32 (b : Bytes) : UInt32 := UInt32.ofNat (leValue (b.take 4))

@[simp] theorem length_putUint16 (v : UInt16) : (putUint16 v).length = 2 := by
  simp [putUint16]

@[simp] theorem length_putUint32 (v : UInt32) : (putUint32 v).length = 4 := by
  simp [putUint32]

@[simp] theorem length_flatMap_putUint16 (words : List UInt16) :
    (words.flatMap putUint16).length = 2 * words.length := by
  induction words with
  | nil => rfl
  | cons w words ih => simp [ih]; omega

@[simp] theorem uint16_putUint16_append (v : UInt16) (rest : Bytes) :
    uint16 (putUint16 v ++ rest) = v := by
  have h : leValue (leBytes 2 v.toNat) = v.toNat :=
    (leValue_leBytes 2 v.toNat).trans (Nat.mod_eq_of_lt (uint16_toNat_lt v))
  simp [uint16, putUint16, List.take_append_of_le_length, h]

@[simp] theorem uint32_putUint32_append (v : UInt32) (rest : Bytes) :
    uint32 (putUint32 v ++ rest) = v := by
  have h : leValue (leBytes 4 v.toNat) = v.toNat :=
    (leValue_leBytes 4 v.toNat).trans (Nat.mod_eq_of_lt (uint32_toNat_lt v))
  simp [uint32, putUint32, List.take_append_of_le_length, h]

@[simp] theorem uint16_putUint16 (v : UInt16) : uint16 (putUint16 v) = v := by
  simpa using uint16_putUint16_append v []

@[simp] theorem uint32_putUint32 (v : UInt32) : uint32 (putUint32 v) = v := by
  simpa using uint32_putUint32_append v []

theorem uint16_take (b : Bytes) {n : Nat} (h : 2 ≤ n) : uint16 (b.take n) = uint16 b := by
  simp only [uint16, List.take_take, Nat.min_eq_left h]

theorem uint32_take (b : Bytes) {n : Nat} (h : 4 ≤ n) : uint32 (b.take n) = uint32 b := by
  simp only [uint32, List.take_take, Nat.min_eq_left h]

theorem putUint16_uint16 {b : Bytes} (h : 2 ≤ b.length) : putUint16 (uint16 b) = b.take 2 := by
  have hlen : (b.take 2).length = 2 := List.length_take_of_le h
  have hlt : leValue (b.take 2) < 65536 := by simpa [hlen] using leValue_lt (b.take 2)
  rw [putUint16, uint16, uint16_toNat_ofNat, Nat.mod_eq_of_lt hlt]
  have h2 := leBytes_leValue (b.take 2)
  rwa [hlen] at h2

theorem putUint32_uint32 {b : Bytes} (h : 4 ≤ b.length) : putUint32 (uint32 b) = b.take 4 := by
  have hlen : (b.take 4).length = 4 := List.length_take_of_le h
  have hlt : leValue (b.take 4) < 4294967296 := by simpa [hlen] using leValue_lt (b.take 4)
  rw [putUint32, uint32, uint32_toNat_ofNat, Nat.mod_eq_of_lt hlt]
  have h4 := leBytes_leValue (b.take 4)
  rwa [hlen] at h4

@[simp] theorem ite_length_pos (b : Bytes) : (if b.length > 0 then b else []) = b := by
  split <;> simp_all

/-- A CIP error value (`cip.Error`): a general status and its extended status words. -/
structure CipError where
  status : UInt8
  extStatus : List UInt16
  deriving DecidableEq, Repr

/-- The error values the modelled functions return. -/
inductive GoError
  /-- `io.EOF` -/
  | eof
  /-- `io.ErrUnexpectedEOF` -/
  | unexpectedEOF
  /-- a `cip.Error` value -/
  | cip (e : CipError)
  /-- an error made by `fmt.Errorf` from a format and its numeric arguments -/
  | errorf (format : String) (args : List Nat)
  /-- an error made by `fmt.Errorf` wrapping another with `%w` -/
  | wrap (format : String) (inner : GoError)
  deriving DecidableEq, Repr

/-- The run-time panics the modelled code can raise. -/
inductive Panic
  /-- `slice bounds out of range` -/
  | sliceBounds
  /-- `index out of range` -/
  | indexOutOfRange
  /-- a nil pointer dereference -/
  | nilDereference
  /-- an explicit `panic` with its message -/
  | message (text : String)
  deriving DecidableEq, Repr

@[simp] theorem ok_bind {ε α β : Type} (a : α) (f : α → Except ε β) :
    (Except.ok a >>= f) = f a := rfl

@[simp] theorem error_bind {ε α β : Type} (e : ε) (f : α → Except ε β) :
    (Except.error e >>= f) = Except.error e := rfl

theorem bind_eq_ok {ε α β : Type} {x : Except ε α} {f : α → Except ε β} {b : β} :
    (x >>= f) = .ok b ↔ ∃ a, x = .ok a ∧ f a = .ok b := by
  cases x <;> simp

/-- `io.ReadFull` (and `binary.Read` of a fixed-size value) on the unread bytes `r`:
the next `n` bytes and what follows them; `io.EOF` when nothing is left and
`io.ErrUnexpectedEOF` when fewer than `n` bytes are. -/
def readFull (n : Nat) (r : Bytes) : Except GoError (Bytes × Bytes) :=
  if n ≤ r.length then .ok (r.take n, r.drop n)
  else if r = [] then .error .eof else .error .unexpectedEOF

/-- `bytes.Reader.Read` into a fresh zeroed buffer of `n` bytes: `io.EOF` when nothing
is left, even for `n = 0`; otherwise as many bytes as remain, the rest of the buffer
left zero, and no error. -/
def readInto (n : Nat) : Bytes → Except GoError (Bytes × Bytes)
  | [] => .error .eof
  | r => .ok (r.take n ++ List.replicate (n - r.length) 0, r.drop n)

/-- `binary.Read` of a `uint8`. -/
def readUint8 (r : Bytes) : Except GoError (UInt8 × Bytes) := do
  let (b, r) ← readFull 1 r
  pure (b.headD 0, r)

/-- `binary.Read` of a little-endian `uint16`. -/
def readUint16 (r : Bytes) : Except GoError (UInt16 × Bytes) := do
  let (b, r) ← readFull 2 r
  pure (uint16 b, r)

/-- `binary.Read` of a little-endian `uint32`. -/
def readUint32 (r : Bytes) : Except GoError (UInt32 × Bytes) := do
  let (b, r) ← readFull 4 r
  pure (uint32 b, r)

/-- `make([]byte, n)` filled by `io.ReadFull` when `n > 0`; the read is skipped for
`n = 0`. -/
def readPayload (n : Nat) (r : Bytes) : Except GoError (Bytes × Bytes) :=
  if n > 0 then readFull n r else .ok ([], r)

theorem readFull_of_le {n : Nat} {r : Bytes} (h : n ≤ r.length) :
    readFull n r = .ok (r.take n, r.drop n) :=
  if_pos h

theorem readFull_of_lt {n : Nat} {r : Bytes} (h : r.length < n) :
    ∃ e, readFull n r = .error e := by
  unfold readFull
  rw [if_neg (by omega)]
  split <;> exact ⟨_, rfl⟩

theorem readFull_append {n : Nat} {b : Bytes} (rest : Bytes) (h : b.length = n) :
    readFull n (b ++ rest) = .ok (b, rest) := by
  subst h
  simp [readFull]

theorem readFull_append_of_le {n : Nat} {b : Bytes} (rest : Bytes) (h : n ≤ b.length) :
    readFull n (b ++ rest) = .ok (b.take n, b.drop n ++ rest) := by
  simp [readFull, List.take_append_of_le_length h, List.drop_append_of_le_length h]
  omega

theorem readFull_eq_ok {n : Nat} {r b rest : Bytes} :
    readFull n r = .ok (b, rest) ↔ b.length = n ∧ r = b ++ rest := by
  unfold readFull
  split
  · simp only [Except.ok.injEq, Prod.mk.injEq]
    constructor
    · rintro ⟨rfl, rfl⟩
      simp_all
    · rintro ⟨hb, rfl⟩
      simp [← hb]
  · split <;> simp only [false_iff, reduceCtorEq] <;> rintro ⟨rfl, rfl⟩ <;> simp_all

theorem readFull_eq_ok_iff {n : Nat} {r : Bytes} {p : Bytes × Bytes} :
    readFull n r = .ok p ↔ n ≤ r.length ∧ p = (r.take n, r.drop n) := by
  unfold readFull
  split
  · simp_all [eq_comm]
  · split <;> simp_all

@[simp] theorem readUint8_cons (b : UInt8) (rest : Bytes) :
    readUint8 (b :: rest) = .ok (b, rest) := by
  simp [readUint8, readFull]

@[simp] theorem readUint16_putUint16_append (v : UInt16) (rest : Bytes) :
    readUint16 (putUint16 v ++ rest) = .ok (v, rest) := by
  simp [readUint16, readFull_append rest (length_putUint16 v)]

@[simp] theorem readUint32_putUint32_append (v : UInt32) (rest : Bytes) :
    readUint32 (putUint32 v ++ rest) = .ok (v, rest) := by
  simp [readUint32, readFull_append rest (length_putUint32 v)]

theorem readPayload_append {n : Nat} {b : Bytes} (rest : Bytes) (h : b.length = n) :
    readPayload n (b ++ rest) = .ok (b, rest) := by
  unfold readPayload
  split
  · exact readFull_append rest h
  · simp [List.eq_nil_of_length_eq_zero (by omega : b.length = 0)]

theorem readUint8_append_of_le {b : Bytes} (rest : Bytes) (h : 1 ≤ b.length) :
    readUint8 (b ++ rest) = .ok (b.headD 0, b.drop 1 ++ rest) := by
  cases b with
  | nil => simp at h
  | cons x xs => simp [readUint8, readFull]

theorem readUint16_append_of_le {b : Bytes} (rest : Bytes) (h : 2 ≤ b.length) :
    readUint16 (b ++ rest) = .ok (uint16 b, b.drop 2 ++ rest) := by
  simp [readUint16, readFull_append_of_le rest h, uint16_take]

theorem readUint32_append_of_le {b : Bytes} (rest : Bytes) (h : 4 ≤ b.length) :
    readUint32 (b ++ rest) = .ok (uint32 b, b.drop 4 ++ rest) := by
  simp [readUint32, readFull_append_of_le rest h, uint32_take]

theorem readPayload_append_of_le {n : Nat} {b : Bytes} (rest : Bytes) (h : n ≤ b.length) :
    readPayload n (b ++ rest) = .ok (b.take n, b.drop n ++ rest) := by
  unfold readPayload
  split
  · exact readFull_append_of_le rest h
  · simp [show n = 0 by omega]

theorem readPayload_eq_ok {n : Nat} {r b rest : Bytes} (h : readPayload n r = .ok (b, rest)) :
    r = b ++ rest := by
  unfold readPayload at h
  split at h
  · exact (readFull_eq_ok.mp h).2
  · simp only [Except.ok.injEq, Prod.mk.injEq] at h
    simp [← h.1, h.2]

theorem readPayload_of_le {n : Nat} {r : Bytes} (h : n ≤ r.length) :
    readPayload n r = .ok (r.take n, r.drop n) := by
  unfold readPayload
  split
  · exact readFull_of_le h
  · simp_all

theorem readPayload_of_lt {n : Nat} {r : Bytes} (h : r.length < n) :
    ∃ e, readPayload n r = .error e := by
  unfold readPayload
  rw [if_pos (by omega)]
  exact readFull_of_lt h

/-- A computation whose only failures are the ends of input the readers report. -/
def OnlyEOF {α : Type} (x : Except GoError α) : Prop :=
  ∀ e, x = .error e → e = .eof ∨ e = .unexpectedEOF

theorem onlyEOF_bind {α β : Type} {x : Except GoError α} {f : α → Except GoError β}
    (hx : OnlyEOF x) (hf : ∀ a, OnlyEOF (f a)) : OnlyEOF (x >>= f) := by
  cases x with
  | error e => rw [error_bind]; exact fun e' h => hx e' (by cases h; rfl)
  | ok a => rw [ok_bind]; exact hf a

theorem onlyEOF_pure {α : Type} (a : α) : OnlyEOF (pure a : Except GoError α) := by
  intro e h
  cases h

theorem onlyEOF_readFull (n : Nat) (r : Bytes) : OnlyEOF (readFull n r) := by
  intro e h
  unfold readFull at h
  split at h
  · cases h
  · split at h <;> cases h <;> simp

theorem onlyEOF_readInto (n : Nat) (r : Bytes) : OnlyEOF (readInto n r) := by
  intro e h
  cases r with
  | nil => cases h; exact Or.inl rfl
  | cons b r => cases h

theorem readInto_of_ne_nil (n : Nat) {r : Bytes} (h : r ≠ []) :
    readInto n r = .ok (r.take n ++ List.replicate (n - r.length) 0, r.drop n) := by
  cases r with
  | nil => exact absurd rfl h
  | cons b r => rfl

theorem readInto_isOk_iff (n : Nat) (r : Bytes) : (∃ p, readInto n r = .ok p) ↔ r ≠ [] := by
  cases r <;> simp [readInto]

theorem readInto_append {n : Nat} {b : Bytes} (rest : Bytes) (h : b.length = n)
    (hne : b ++ rest ≠ []) : readInto n (b ++ rest) = .ok (b, rest) := by
  subst h
  match hr : b ++ rest, hne with
  | c :: cs, _ =>
      rw [← hr]
      simp [readInto, hr.symm]

end GoeipProofs.Wire
