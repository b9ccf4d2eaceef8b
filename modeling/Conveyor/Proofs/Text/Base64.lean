import Conveyor.Text.Base64
import Mathlib.Data.List.Basic
import Mathlib.Tactic.IntervalCases

/-!
# Base64 and back

Decoding accepts exactly what encoding gives (`decode_eq_ok_iff`), so every sequence of bytes has
one text that stands for it (`decodeText_eq_ok_iff`).
-/

namespace Conveyor.Text.Base64

/-! ### The alphabet -/

lemma valueOf_symbolOf : ∀ n < 64, valueOf (symbolOf n) = some n := by decide

lemma symbolOf_ne_pad : ∀ n < 64, symbolOf n ≠ pad := by decide

lemma symbolOf_lt : ∀ n < 64, symbolOf n < 128 := by decide

lemma of_valueOf {s : UInt8} {v : Nat} (h : valueOf s = some v) : v < 64 ∧ symbolOf v = s := by
  have all : ∀ n < 256, ∀ v ∈ valueOf (UInt8.ofNat n), v < 64 ∧ symbolOf v = UInt8.ofNat n := by
    decide +kernel
  have byte := all s.toNat s.toNat_lt v
  rw [UInt8.ofNat_toNat] at byte
  exact byte h

/-! ### Groups -/

/-- The three bytes of a number that four values make up. -/
def threeBytes (n : Nat) : Bytes :=
  [(n / 65536).toUInt8, (n / 256 % 256).toUInt8, (n % 256).toUInt8]

/-- Four values make up a group of three bytes. -/
lemma encode_group {v w x y : Nat} (hv : v < 64) (hw : w < 64) (hx : x < 64) (hy : y < 64)
    (later : Bytes) :
    encode (threeBytes (((v * 64 + w) * 64 + x) * 64 + y) ++ later) =
      symbolOf v :: symbolOf w :: symbolOf x :: symbolOf y :: encode later := by
  obtain ⟨n, hn⟩ : ∃ n, n = ((v * 64 + w) * 64 + x) * 64 + y := ⟨_, rfl⟩
  rw [← hn]
  have whole : (n / 65536).toUInt8.toNat * 65536 + (n / 256 % 256).toUInt8.toNat * 256 +
      (n % 256).toUInt8.toNat = n := by
    simp only [Nat.toUInt8_eq, UInt8.toNat_ofNat']
    omega
  have first : n / 262144 = v := by omega
  have second : n / 4096 % 64 = w := by omega
  have third : n / 64 % 64 = x := by omega
  have fourth : n % 64 = y := by omega
  simp only [threeBytes, List.cons_append, List.nil_append, encode, whole, first, second, third,
    fourth]

/-- Three bytes are made up of four values. -/
lemma group_values (a b c : UInt8) : ∃ v w x y : Nat, v < 64 ∧ w < 64 ∧ x < 64 ∧ y < 64 ∧
    threeBytes (((v * 64 + w) * 64 + x) * 64 + y) = [a, b, c] := by
  obtain ⟨n, hn⟩ : ∃ n, n = a.toNat * 65536 + b.toNat * 256 + c.toNat := ⟨_, rfl⟩
  have := a.toNat_lt
  have := b.toNat_lt
  have := c.toNat_lt
  refine ⟨n / 262144, n / 4096 % 64, n / 64 % 64, n % 64, by omega, by omega, by omega, by omega,
    ?_⟩
  have whole : ((n / 262144 * 64 + n / 4096 % 64) * 64 + n / 64 % 64) * 64 + n % 64 = n := by omega
  have first : n / 65536 = a.toNat := by omega
  have second : n / 256 % 256 = b.toNat := by omega
  have third : n % 256 = c.toNat := by omega
  simp [threeBytes, whole, first, second, third]

/-! ### The last group -/

variable {start index pads : Nat} {values : List Nat} {bytes group text : Bytes}

/-- The symbols of values below 64, with padding after at least two of them. -/
def Padded (index : Nat) (values : List Nat) (pads : Nat) : Prop :=
  (∀ v ∈ values, v < 64) ∧ (0 < pads → 2 ≤ index + values.length)

lemma of_lastSymbols (h : lastSymbols start index group = .ok (values, pads)) :
    group = values.map symbolOf ++ List.replicate pads pad ∧ Padded index values pads := by
  induction group generalizing index values with
  | nil =>
    cases h
    exact ⟨rfl, nofun, nofun⟩
  | cons s rest ih =>
    rw [lastSymbols] at h
    split at h
    case isTrue isPad =>
      split at h
      · cases h
      · rename_i late
        split at h
        · rename_i all
          cases h
          have padding : rest = List.replicate rest.length pad :=
            List.eq_replicate_iff.mpr ⟨rfl, by simpa using all⟩
          refine ⟨?_, nofun, fun _ => Nat.le_of_not_lt late⟩
          rw [isPad, List.map_nil, List.nil_append, List.replicate_succ, ← padding]
        · cases h
    case isFalse =>
      split at h
      · cases h
      · rename_i v hv
        obtain ⟨small, symbol⟩ := of_valueOf hv
        cases hrest : lastSymbols start (index + 1) rest with
        | error e => simp [hrest, Except.map] at h
        | ok later =>
          rw [hrest] at h
          cases h
          obtain ⟨written, all, enough⟩ := ih hrest
          refine ⟨?_, List.forall_mem_cons.mpr ⟨small, all⟩, fun padded => ?_⟩
          · rw [written, List.map_cons, symbol, List.cons_append]
          · have := enough padded
            rw [List.length_cons]
            omega

lemma lastSymbols_replicate (late : 2 ≤ index) (pads : Nat) :
    lastSymbols start index (List.replicate pads pad) = .ok ([], pads) := by
  cases pads with
  | zero => rfl
  | succ pads => simp [List.replicate_succ, lastSymbols, Nat.not_lt.mpr late]

lemma lastSymbols_of_padded (h : Padded index values pads) :
    lastSymbols start index (values.map symbolOf ++ List.replicate pads pad) =
      .ok (values, pads) := by
  obtain ⟨all, enough⟩ := h
  induction values generalizing index with
  | nil =>
    cases pads with
    | zero => rfl
    | succ pads => exact lastSymbols_replicate (enough (Nat.succ_pos pads)) _
  | cons v values ih =>
    obtain ⟨small, later⟩ := List.forall_mem_cons.mp all
    have enough' : 0 < pads → 2 ≤ index + 1 + values.length := by
      intro padded
      have := enough padded
      rw [List.length_cons] at this
      omega
    have next := ih later enough'
    simp [lastSymbols, symbolOf_ne_pad v small, valueOf_symbolOf v small, next, Except.map]

/-- The bytes that the values of the last group stand for, if they fill it up with their padding. -/
inductive Assembled : List Nat → Nat → Bytes → Prop
  | none : Assembled [] 0 []
  | one {v w : Nat} (spare : (v * 64 + w) % 16 = 0) :
    Assembled [v, w] 2 [((v * 64 + w) / 16).toUInt8]
  | two {v w x : Nat} (spare : ((v * 64 + w) * 64 + x) % 4 = 0) :
    Assembled [v, w, x] 1
      [(((v * 64 + w) * 64 + x) / 1024).toUInt8, (((v * 64 + w) * 64 + x) / 4 % 256).toUInt8]
  | three {v w x y : Nat} :
    Assembled [v, w, x, y] 0 (threeBytes (((v * 64 + w) * 64 + x) * 64 + y))

lemma decodeLast_of_assembled (symbols : lastSymbols start 0 group = .ok (values, pads))
    (h : Assembled values pads bytes) : decodeLast start group = .ok bytes := by
  rw [decodeLast, symbols]
  cases h with
  | none => rfl
  | one spare => simp [spare, bind, Except.bind, pure, Except.pure]
  | two spare => simp [spare, bind, Except.bind, pure, Except.pure]
  | three => simp [threeBytes, Nat.mod_one, bind, Except.bind, pure, Except.pure]

lemma assembled_of_decodeLast (short : group.length ≤ 4) (h : decodeLast start group = .ok bytes) :
    ∃ values pads, lastSymbols start 0 group = .ok (values, pads) ∧
      Assembled values pads bytes := by
  rw [decodeLast] at h
  cases symbols : lastSymbols start 0 group with
  | error e => simp [symbols, bind, Except.bind] at h
  | ok result =>
    obtain ⟨values, pads⟩ := result
    refine ⟨values, pads, rfl, ?_⟩
    obtain ⟨written, -, enough⟩ := of_lastSymbols symbols
    have length : values.length + pads ≤ 4 := by
      rw [written] at short
      simpa using short
    rw [symbols] at h
    match values, h with
    | [], h =>
      obtain rfl : pads = 0 := by
        by_contra positive
        exact absurd (enough (Nat.pos_of_ne_zero positive)) (by simp)
      cases h
      exact .none
    | [v], h => simp [bind, Except.bind, throw, throwThe, MonadExceptOf.throw] at h
    | [v, w], h =>
      have room : pads < 3 := by
        simp only [List.length_cons, List.length_nil] at length
        omega
      interval_cases pads
      · simp [bind, Except.bind, throw, throwThe, MonadExceptOf.throw] at h
      · simp [bind, Except.bind, throw, throwThe, MonadExceptOf.throw] at h
      · by_cases spare : (v * 64 + w) % 16 = 0
        · simp [spare, bind, Except.bind, pure, Except.pure] at h
          exact h ▸ .one spare
        · simp [spare, bind, Except.bind, throw, throwThe, MonadExceptOf.throw] at h
    | [v, w, x], h =>
      have room : pads < 2 := by
        simp only [List.length_cons, List.length_nil] at length
        omega
      interval_cases pads
      · simp [bind, Except.bind, throw, throwThe, MonadExceptOf.throw] at h
      · by_cases spare : ((v * 64 + w) * 64 + x) % 4 = 0
        · simp [spare, bind, Except.bind, pure, Except.pure] at h
          exact h ▸ .two spare
        · simp [spare, bind, Except.bind, throw, throwThe, MonadExceptOf.throw] at h
    | [v, w, x, y], h =>
      obtain rfl : pads = 0 := by
        simp only [List.length_cons, List.length_nil] at length
        omega
      simp [Nat.mod_one, bind, Except.bind, pure, Except.pure] at h
      exact h ▸ .three
    | _ :: _ :: _ :: _ :: _ :: _, h =>
      simp only [List.length_cons] at length
      omega

lemma encode_of_assembled (h : Assembled values pads bytes) (all : ∀ v ∈ values, v < 64) :
    encode bytes = values.map symbolOf ++ List.replicate pads pad := by
  cases h with
  | none => rfl
  | @one v w spare =>
    simp only [List.forall_mem_cons, List.not_mem_nil, false_implies, implies_true, and_true] at all
    obtain ⟨hv, hw⟩ := all
    have whole : ((v * 64 + w) / 16).toUInt8.toNat * 16 = v * 64 + w := by
      rw [Nat.toUInt8_eq, UInt8.toNat_ofNat']
      omega
    have first : (v * 64 + w) / 64 = v := by omega
    have second : (v * 64 + w) % 64 = w := by omega
    simp only [encode, whole, first, second]
    rfl
  | @two v w x spare =>
    simp only [List.forall_mem_cons, List.not_mem_nil, false_implies, implies_true, and_true] at all
    obtain ⟨hv, hw, hx⟩ := all
    have whole : ((((v * 64 + w) * 64 + x) / 1024).toUInt8.toNat * 256 +
        (((v * 64 + w) * 64 + x) / 4 % 256).toUInt8.toNat) * 4 = (v * 64 + w) * 64 + x := by
      simp only [Nat.toUInt8_eq, UInt8.toNat_ofNat']
      omega
    have first : ((v * 64 + w) * 64 + x) / 4096 = v := by omega
    have second : ((v * 64 + w) * 64 + x) / 64 % 64 = w := by omega
    have third : ((v * 64 + w) * 64 + x) % 64 = x := by omega
    simp only [encode, whole, first, second, third]
    rfl
  | @three v w x y =>
    simp only [List.forall_mem_cons, List.not_mem_nil, false_implies, implies_true, and_true] at all
    obtain ⟨hv, hw, hx, hy⟩ := all
    exact encode_group hv hw hx hy []

lemma assembled_of_short (short : bytes.length ≤ 3) :
    ∃ values pads, Padded 0 values pads ∧ Assembled values pads bytes := by
  match bytes, short with
  | [], _ => exact ⟨[], 0, ⟨nofun, nofun⟩, .none⟩
  | [a], _ =>
    have := a.toNat_lt
    have assembled := Assembled.one (v := a.toNat / 4) (w := a.toNat % 4 * 16) (by omega)
    have first : (a.toNat / 4 * 64 + a.toNat % 4 * 16) / 16 = a.toNat := by omega
    rw [first, Nat.toUInt8_eq, UInt8.ofNat_toNat] at assembled
    refine ⟨_, _, ⟨?_, fun _ => by simp⟩, assembled⟩
    simp
    omega
  | [a, b], _ =>
    obtain ⟨n, hn⟩ : ∃ n, n = a.toNat * 256 + b.toNat := ⟨_, rfl⟩
    have := a.toNat_lt
    have := b.toNat_lt
    have assembled :=
      Assembled.two (v := n / 1024) (w := n / 16 % 64) (x := n % 16 * 4) (by omega)
    have first : ((n / 1024 * 64 + n / 16 % 64) * 64 + n % 16 * 4) / 1024 = a.toNat := by omega
    have second : ((n / 1024 * 64 + n / 16 % 64) * 64 + n % 16 * 4) / 4 % 256 = b.toNat := by omega
    simp only [first, second, Nat.toUInt8_eq, UInt8.ofNat_toNat] at assembled
    refine ⟨_, _, ⟨?_, fun _ => by simp⟩, assembled⟩
    simp
    omega
  | [a, b, c], _ =>
    obtain ⟨v, w, x, y, hv, hw, hx, hy, group⟩ := group_values a b c
    refine ⟨[v, w, x, y], 0, ⟨by simp [hv, hw, hx, hy], nofun⟩, ?_⟩
    rw [← group]
    exact .three

lemma decodeLast_encode (short : bytes.length ≤ 3) :
    decodeLast start (encode bytes) = .ok bytes := by
  obtain ⟨values, pads, padded, assembled⟩ := assembled_of_short short
  rw [encode_of_assembled assembled padded.1]
  exact decodeLast_of_assembled (lastSymbols_of_padded padded) assembled

lemma encode_of_decodeLast (short : group.length ≤ 4) (h : decodeLast start group = .ok bytes) :
    encode bytes = group := by
  obtain ⟨values, pads, symbols, assembled⟩ := assembled_of_decodeLast short h
  obtain ⟨written, all, -⟩ := of_lastSymbols symbols
  rw [written, encode_of_assembled assembled all]

/-! ### Whole texts -/

lemma valueAt_symbolOf (offset : Nat) {v : Nat} (h : v < 64) :
    valueAt offset (symbolOf v) = .ok v := by
  rw [valueAt, valueOf_symbolOf v h]

lemma of_valueAt {offset : Nat} {s : UInt8} {v : Nat} (h : valueAt offset s = .ok v) :
    v < 64 ∧ symbolOf v = s := by
  apply of_valueOf
  rw [valueAt] at h
  split at h
  · rename_i value
    cases h
    exact value
  · cases h

lemma encode_ne_nil (h : bytes ≠ []) : encode bytes ≠ [] := by
  match bytes, h with
  | [a], _ => simp [encode]
  | [a, b], _ => simp [encode]
  | a :: b :: c :: rest, _ => simp [encode]

lemma decodeFrom_of_short (short : group.length ≤ 4) :
    decodeFrom start group = decodeLast start group := by
  unfold decodeFrom
  split
  · simp only [List.length_cons] at short
    omega
  · rfl

/-- A group that is not the last one. -/
lemma decodeFrom_group {v w x y : Nat} (hv : v < 64) (hw : w < 64) (hx : x < 64) (hy : y < 64)
    (more : text ≠ []) :
    decodeFrom start (symbolOf v :: symbolOf w :: symbolOf x :: symbolOf y :: text) =
      (decodeFrom (start + 4) text).map
        fun later => threeBytes (((v * 64 + w) * 64 + x) * 64 + y) ++ later := by
  obtain ⟨e, rest, rfl⟩ := List.exists_cons_of_ne_nil more
  have whole : v * 262144 + w * 4096 + x * 64 + y = ((v * 64 + w) * 64 + x) * 64 + y := by omega
  rw [decodeFrom]
  simp only [valueAt_symbolOf _ hv, valueAt_symbolOf _ hw, valueAt_symbolOf _ hx,
    valueAt_symbolOf _ hy, bind, Except.bind, whole]
  cases decodeFrom (start + 4) (e :: rest) <;> rfl

lemma length_encode_le (short : bytes.length ≤ 3) : (encode bytes).length ≤ 4 := by
  match bytes, short with
  | [], _ => simp [encode]
  | [a], _ => simp [encode]
  | [a, b], _ => simp [encode]
  | [a, b, c], _ => simp [encode]

lemma decodeFrom_encode_of_short (short : bytes.length ≤ 3) :
    decodeFrom start (encode bytes) = .ok bytes := by
  rw [decodeFrom_of_short (length_encode_le short), decodeLast_encode short]

lemma decodeFrom_encode (bytes : Bytes) : decodeFrom start (encode bytes) = .ok bytes := by
  induction bytes using encode.induct generalizing start with
  | case1 => exact decodeFrom_encode_of_short (by simp)
  | case2 a => exact decodeFrom_encode_of_short (by simp)
  | case3 a b => exact decodeFrom_encode_of_short (by simp)
  | case4 a b c rest ih =>
    by_cases last : rest = []
    · subst last
      exact decodeFrom_encode_of_short (by simp)
    · obtain ⟨v, w, x, y, hv, hw, hx, hy, group⟩ := group_values a b c
      have bytes : a :: b :: c :: rest =
          threeBytes (((v * 64 + w) * 64 + x) * 64 + y) ++ rest := by
        rw [group]
        rfl
      rw [bytes, encode_group hv hw hx hy, decodeFrom_group hv hw hx hy (encode_ne_nil last), ih]
      rfl

lemma encode_of_decodeFrom (h : decodeFrom start text = .ok bytes) : encode bytes = text := by
  induction start, text using decodeFrom.induct generalizing bytes with
  | case1 start a b c d e rest ih =>
    rw [decodeFrom] at h
    cases ha : valueAt start a with
    | error => simp [ha, bind, Except.bind] at h
    | ok v =>
    cases hb : valueAt (start + 1) b with
    | error => simp [ha, hb, bind, Except.bind] at h
    | ok w =>
    cases hc : valueAt (start + 2) c with
    | error => simp [ha, hb, hc, bind, Except.bind] at h
    | ok x =>
    cases hd : valueAt (start + 3) d with
    | error => simp [ha, hb, hc, hd, bind, Except.bind] at h
    | ok y =>
    obtain ⟨hv, rfl⟩ := of_valueAt ha
    obtain ⟨hw, rfl⟩ := of_valueAt hb
    obtain ⟨hx, rfl⟩ := of_valueAt hc
    obtain ⟨hy, rfl⟩ := of_valueAt hd
    rw [← decodeFrom, decodeFrom_group hv hw hx hy (List.cons_ne_nil e rest)] at h
    cases hlater : decodeFrom (start + 4) (e :: rest) with
    | error => simp [hlater, Except.map] at h
    | ok later =>
      rw [hlater] at h
      cases h
      rw [encode_group hv hw hx hy, ih hlater]
  | case2 start last short =>
    have length : last.length ≤ 4 := by
      match last, short with
      | [], _ | [_], _ | [_, _], _ | [_, _, _], _ | [_, _, _, _], _ => simp
      | a :: b :: c :: d :: e :: rest, short => exact absurd rfl (short a b c d e rest)
    rw [decodeFrom_of_short length] at h
    exact encode_of_decodeLast length h

lemma length_encode (bytes : Bytes) : (encode bytes).length % 4 = 0 := by
  induction bytes using encode.induct with
  | case1 => simp [encode]
  | case2 a => simp [encode]
  | case3 a b => simp [encode]
  | case4 a b c rest ih => simp [encode, Nat.add_mod, ih]

/-- Decoding accepts what encoding gives, and nothing else. -/
lemma decode_eq_ok_iff : decode text = .ok bytes ↔ encode bytes = text := by
  constructor
  · intro h
    rw [decode] at h
    split at h
    · split at h
      · cases h
      · exact encode_of_decodeFrom h
    · rename_i empty
      cases h
      exact (List.getLast?_eq_none_iff.mp empty).symm
  · rintro rfl
    rw [decode]
    split
    · rw [if_neg (by simp [length_encode])]
      exact decodeFrom_encode bytes
    · rename_i empty
      by_cases none : bytes = []
      · rw [none]
      · exact absurd (List.getLast?_eq_none_iff.mp empty) (encode_ne_nil none)

/-! ### Texts of characters -/

lemma toList_loop (b : ByteArray) (i : Nat) (r : List UInt8) :
    ByteArray.toList.loop b i r = r.reverse ++ b.data.toList.drop i := by
  induction i, r using ByteArray.toList.loop.induct b with
  | case1 i r more ih =>
    have more' : i < b.data.size := more
    have byte : b.get! i = b.data[i] := getElem!_pos b.data i more'
    rw [ByteArray.toList.loop, if_pos more, ih, byte, List.reverse_cons, List.append_assoc,
      List.singleton_append, ← Array.getElem_toList, ← List.drop_eq_getElem_cons]
  | case2 i r done =>
    rw [ByteArray.toList.loop, if_neg done]
    simp [List.drop_eq_nil_of_le (Nat.le_of_not_lt done : b.data.toList.length ≤ i)]

lemma toList_eq_data (b : ByteArray) : b.toList = b.data.toList := by
  rw [ByteArray.toList, toList_loop, List.reverse_nil, List.nil_append, List.drop_zero]

lemma ofString_ofList (cs : List Char) :
    Bytes.ofString (.ofList cs) = cs.flatMap String.utf8EncodeChar := by
  rw [Bytes.ofString, toList_eq_data, String.toUTF8_eq_toByteArray, String.toByteArray_ofList,
    List.utf8Encode, List.toList_data_toByteArray]

lemma ofString_injective {s t : String} (h : Bytes.ofString s = Bytes.ofString t) : s = t := by
  rw [Bytes.ofString, Bytes.ofString, toList_eq_data, toList_eq_data] at h
  exact String.toByteArray_inj.mp (ByteArray.ext (Array.ext' h))

/-- A character below 128 is written as one byte. -/
lemma utf8EncodeChar_ofNat (s : UInt8) (h : s < 128) :
    String.utf8EncodeChar (Char.ofNat s.toNat) = [s] := by
  have all : ∀ n < 128, String.utf8EncodeChar (Char.ofNat n) = [n.toUInt8] := by decide +kernel
  have byte := all s.toNat h
  rwa [Nat.toUInt8_eq, UInt8.ofNat_toNat] at byte

lemma lt_of_mem_encode {s : UInt8} (h : s ∈ encode bytes) : s < 128 := by
  induction bytes using encode.induct with
  | case1 => cases h
  | case2 a =>
    have := a.toNat_lt
    simp only [encode, List.mem_cons, List.not_mem_nil, or_false] at h
    rcases h with rfl | rfl | rfl | rfl
    · exact symbolOf_lt _ (by omega)
    · exact symbolOf_lt _ (by omega)
    · decide
    · decide
  | case3 a b =>
    have := a.toNat_lt
    have := b.toNat_lt
    simp only [encode, List.mem_cons, List.not_mem_nil, or_false] at h
    rcases h with rfl | rfl | rfl | rfl
    · exact symbolOf_lt _ (by omega)
    · exact symbolOf_lt _ (by omega)
    · exact symbolOf_lt _ (by omega)
    · decide
  | case4 a b c rest ih =>
    have := a.toNat_lt
    have := b.toNat_lt
    have := c.toNat_lt
    simp only [encode, List.mem_cons] at h
    rcases h with rfl | rfl | rfl | rfl | h
    · exact symbolOf_lt _ (by omega)
    · exact symbolOf_lt _ (by omega)
    · exact symbolOf_lt _ (by omega)
    · exact symbolOf_lt _ (by omega)
    · exact ih h

lemma ofString_encodeText (bytes : Bytes) : Bytes.ofString (encodeText bytes) = encode bytes := by
  have same : ∀ s ∈ encode bytes, String.utf8EncodeChar (Char.ofNat s.toNat) = [s] :=
    fun s hs => utf8EncodeChar_ofNat s (lt_of_mem_encode hs)
  rw [encodeText, ofString_ofList, List.flatMap_map, List.flatMap_congr same,
    List.flatMap_singleton']

/-- Every sequence of bytes has one text that stands for it. -/
lemma decodeText_eq_ok_iff {s : String} : decodeText s = .ok bytes ↔ encodeText bytes = s := by
  rw [decodeText, decode_eq_ok_iff, ← ofString_encodeText]
  exact ⟨fun h => ofString_injective h, fun h => congrArg _ h⟩

end Conveyor.Text.Base64
