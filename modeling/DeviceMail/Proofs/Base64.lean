/-
  DeviceMail — base64 read back.

  * `pack_values` and `values_pack`: bytes are made of their six-bit values again,
    and whole bytes have the values they were made of;
  * `decode_eq_ok_iff`: bytes are read from their symbols, whether the padding is
    complete, short or missing, and from nothing else;
  * `decodeText_eq_ok_iff`: the same for texts, and `symbolsOf_of_decodeText`:
    what such a text has before its padding.
-/
import DeviceMail.Base64
import Mathlib.Data.List.DropRight
import Mathlib.Tactic.SplitIfs

namespace DeviceMail

namespace Text

theorem utf8_ofList (cs : List Char) : utf8 (.ofList cs) = cs.flatMap String.utf8EncodeChar := by
  rw [utf8, String.toUTF8, String.toByteArray_ofList, List.utf8Encode, List.toList_data_toByteArray]

/-- A text is determined by its bytes. -/
theorem utf8_inj {a b : String} : utf8 a = utf8 b ↔ a = b := by
  rw [utf8, utf8, Array.toList_inj]
  exact ByteArray.ext_iff.symm.trans String.toByteArray_inj

end Text

namespace Base64

/-! ## Symbols -/

theorem value?_symbol : ∀ v < 64, value? (symbol v) = some v := by decide

theorem symbol_ne_padding : ∀ v < 64, symbol v ≠ padding := by decide

theorem symbol_lt : ∀ v < 64, (symbol v).toNat < 128 := by decide

/-- The characters of the alphabet, in the order of their values. -/
def alphabet : List Char :=
  "ABCDEFGHIJKLMNOPQRSTUVWXYZabcdefghijklmnopqrstuvwxyz0123456789+/".toList

theorem alphabet_getElem? : ∀ v < 64, alphabet[v]? = some (Char.ofNat (symbol v).toNat) := by
  decide

theorem equals_notMem_alphabet : '=' ∉ alphabet := by decide

theorem ofNat_eq_of_eq_toNat {n : Nat} {a : UInt8} (h : n = a.toNat) : UInt8.ofNat n = a := by
  rw [h, UInt8.ofNat_toNat]

/-- A byte that has a value is the symbol of that value. -/
theorem symbol_value? {byte : UInt8} {v : Nat} (h : value? byte = some v) :
    v < 64 ∧ symbol v = byte := by
  have hbyte := byte.toNat_lt
  simp only [value?] at h
  split_ifs at h with hupper hlower hdigit hplus hslash <;> obtain rfl := Option.some.inj h
  · refine ⟨by omega, ?_⟩
    rw [symbol, if_pos (by omega)]
    exact ofNat_eq_of_eq_toNat (by omega)
  · refine ⟨by omega, ?_⟩
    rw [symbol, if_neg (by omega), if_pos (by omega)]
    exact ofNat_eq_of_eq_toNat (by omega)
  · refine ⟨by omega, ?_⟩
    rw [symbol, if_neg (by omega), if_neg (by omega), if_pos (by omega)]
    exact ofNat_eq_of_eq_toNat (by omega)
  · exact ⟨by decide, ofNat_eq_of_eq_toNat hplus.symm⟩
  · exact ⟨by decide, ofNat_eq_of_eq_toNat hslash.symm⟩

/-! ## Six-bit values -/

theorem values_lt (bytes : List UInt8) : ∀ v ∈ values bytes, v < 64 := by
  fun_induction values bytes with
  | case1 => simp
  | case2 a =>
    have ha := a.toNat_lt
    simp
    omega
  | case3 a b =>
    have ha := a.toNat_lt
    have hb := b.toNat_lt
    simp
    omega
  | case4 a b c rest ih =>
    have ha := a.toNat_lt
    have hb := b.toNat_lt
    have hc := c.toNat_lt
    simp only [List.mem_cons, forall_eq_or_imp]
    refine ⟨by omega, by omega, by omega, by omega, ih⟩

theorem length_values (bytes : List UInt8) :
    (values bytes).length = (bytes.length * 4 + 2) / 3 := by
  fun_induction values bytes with
  | case1 | case2 | case3 => simp
  | case4 a b c rest ih =>
    simp only [List.length_cons, ih]
    omega

/-- **Bytes are made of their six-bit values again.** -/
theorem pack_values (bytes : List UInt8) : pack (values bytes) = bytes := by
  fun_induction values bytes with
  | case1 => rfl
  | case2 a =>
    have ha := a.toNat_lt
    rw [pack, ofNat_eq_of_eq_toNat (a := a) (by omega)]
  | case3 a b =>
    have ha := a.toNat_lt
    have hb := b.toNat_lt
    rw [pack, ofNat_eq_of_eq_toNat (a := a) (by omega), ofNat_eq_of_eq_toNat (a := b) (by omega)]
  | case4 a b c rest ih =>
    have ha := a.toNat_lt
    have hb := b.toNat_lt
    have hc := c.toNat_lt
    rw [pack, ih, ofNat_eq_of_eq_toNat (a := a) (by omega),
      ofNat_eq_of_eq_toNat (a := b) (by omega), ofNat_eq_of_eq_toNat (a := c) (by omega)]

/-- Whole quads leave nothing out. -/
theorem leftover_quad (a b c d : Nat) (rest : List Nat) :
    leftover (a :: b :: c :: d :: rest) = leftover rest := by
  cases rest with
  | nil => simp [leftover]
  | cons e rest =>
    have hlength : (a :: b :: c :: d :: e :: rest).length % 4 = (e :: rest).length % 4 := by
      simp only [List.length_cons]
      omega
    rw [leftover, leftover, hlength]
    simp only [List.getLastD_cons]

theorem leftover_values (bytes : List UInt8) : leftover (values bytes) = 0 := by
  fun_induction values bytes with
  | case1 => rfl
  | case2 a => simp [leftover]
  | case3 a b => simp [leftover]
  | case4 a b c rest ih => rw [leftover_quad, ih]

/-- **Six-bit values are those of the bytes that they make up**, if no lone value
    stands in the last quad and no bits are left out. -/
theorem values_pack {vs : List Nat} (h : ∀ v ∈ vs, v < 64) (hlone : vs.length % 4 ≠ 1)
    (hbits : leftover vs = 0) : values (pack vs) = vs := by
  fun_induction pack vs with
  | case1 a b c d rest ih =>
    simp only [List.mem_cons, forall_eq_or_imp] at h
    obtain ⟨ha, hb, hc, hd, hrest⟩ := h
    have hlone : rest.length % 4 ≠ 1 := by
      simp only [List.length_cons] at hlone
      omega
    rw [leftover_quad] at hbits
    rw [values, ih hrest hlone hbits]
    simp only [UInt8.toNat_ofNat', List.cons.injEq, and_true]
    omega
  | case2 a b c =>
    simp only [List.mem_cons, forall_eq_or_imp] at h
    simp [leftover] at hbits
    simp only [values, UInt8.toNat_ofNat', List.cons.injEq, and_true]
    omega
  | case3 a b =>
    simp only [List.mem_cons, forall_eq_or_imp] at h
    simp [leftover] at hbits
    simp only [values, UInt8.toNat_ofNat', List.cons.injEq, and_true]
    omega
  | case4 vs hfour hthree htwo =>
    rcases vs with _ | ⟨a, _ | ⟨b, _ | ⟨c, _ | ⟨d, rest⟩⟩⟩⟩
    · rfl
    · simp at hlone
    · exact absurd rfl (htwo a b)
    · exact absurd rfl (hthree a b c)
    · exact absurd rfl (hfour a b c d rest)

/-! ## Padding -/

/-- All of the padding that begins at `offset` stands in the second half of a
    quad. -/
def PaddingFits (offset p : Nat) : Prop := ∀ i < p, 2 ≤ (offset + i) % 4

theorem paddingFits_succ {offset p : Nat} :
    PaddingFits offset (p + 1) ↔ 2 ≤ offset % 4 ∧ PaddingFits (offset + 1) p := by
  constructor
  · intro h
    refine ⟨h 0 p.succ_pos, fun i hi => ?_⟩
    rw [Nat.add_assoc, Nat.add_comm 1 i]
    exact h (i + 1) (Nat.succ_lt_succ hi)
  · rintro ⟨hfirst, hrest⟩ i hi
    rcases i with _ | i
    · exact hfirst
    · have hnext := hrest i (Nat.lt_of_succ_lt_succ hi)
      rwa [Nat.add_assoc, Nat.add_comm 1 i] at hnext

/-- Padding fits as far as the quad goes that the symbols before it began. -/
theorem paddingFits_iff {n p : Nat} (hlone : n % 4 ≠ 1) :
    PaddingFits n p ↔ p ≤ (4 - n % 4) % 4 := by
  constructor
  · intro h
    rcases Nat.eq_zero_or_pos p with rfl | hpos
    · exact Nat.zero_le _
    · have hfirst := h 0 hpos
      have hnext : ¬ 4 - n % 4 < p := fun hlt => by
        have := h _ hlt
        omega
      omega
  · intro h i hi
    omega

/-! ## Reading symbols -/

theorem readSymbols_symbols {vs : List Nat} (h : ∀ v ∈ vs, v < 64) (offset : Nat) :
    readSymbols offset (vs.map symbol) = .ok vs := by
  induction vs generalizing offset with
  | nil => rfl
  | cons v rest ih =>
    obtain ⟨hv, hrest⟩ := List.forall_mem_cons.1 h
    rw [List.map_cons, readSymbols, value?_symbol v hv]
    simp only [ih hrest]
    rfl

theorem readLastSymbols_padding {offset p : Nat} (h : PaddingFits offset p)
    (padded : Option Nat) : readLastSymbols offset padded (List.replicate p padding) = .ok [] := by
  induction p generalizing offset padded with
  | zero => rfl
  | succ p ih =>
    obtain ⟨hfirst, hrest⟩ := paddingFits_succ.1 h
    rw [List.replicate_succ]
    simp only [readLastSymbols, if_pos, if_neg (Nat.not_lt.2 hfirst), ih hrest]

theorem readLastSymbols_symbols {vs : List Nat} (h : ∀ v ∈ vs, v < 64) {offset p : Nat}
    (hp : PaddingFits (offset + vs.length) p) :
    readLastSymbols offset none (vs.map symbol ++ List.replicate p padding) = .ok vs := by
  induction vs generalizing offset with
  | nil => exact readLastSymbols_padding hp none
  | cons v rest ih =>
    obtain ⟨hv, hrest⟩ := List.forall_mem_cons.1 h
    rw [List.length_cons, Nat.add_comm rest.length, ← Nat.add_assoc] at hp
    rw [List.map_cons, List.cons_append, readLastSymbols, if_neg (symbol_ne_padding v hv)]
    simp only [value?_symbol v hv, ih hrest hp]
    rfl

theorem readValues_symbols {vs : List Nat} (h : ∀ v ∈ vs, v < 64) (hlone : vs.length % 4 ≠ 1)
    {p : Nat} (hp : p ≤ (4 - vs.length % 4) % 4) :
    readValues (vs.map symbol ++ List.replicate p padding) = .ok vs := by
  have hlength : (vs.map symbol ++ List.replicate p padding).length = vs.length + p := by simp
  have hstart : lastChunk (vs.length + p) ≤ vs.length := by
    rw [lastChunk]
    omega
  rw [readValues, hlength]
  generalize lastChunk (vs.length + p) = start at hstart
  have hfront : readSymbols 0 ((vs.map symbol ++ List.replicate p padding).take start) =
      .ok (vs.take start) := by
    rw [List.take_append_of_le_length (by simpa using hstart), ← List.map_take]
    exact readSymbols_symbols (fun v hv => h v (List.mem_of_mem_take hv)) 0
  have hlast : readLastSymbols start none ((vs.map symbol ++ List.replicate p padding).drop start) =
      .ok (vs.drop start) := by
    rw [List.drop_append_of_le_length (by simpa using hstart), ← List.map_drop]
    refine readLastSymbols_symbols (fun v hv => h v (List.mem_of_mem_drop hv)) ?_
    rw [List.length_drop, Nat.add_sub_cancel' hstart]
    exact (paddingFits_iff hlone).2 hp
  rw [hfront, hlast]
  exact congrArg Except.ok (List.take_append_drop start vs)

/-! ## Reading what was written -/

/-- **The symbols of bytes are read as these bytes**, whether their padding is
    complete, short or missing. -/
theorem decode_symbols (bytes : List UInt8) {p : Nat}
    (hp : p ≤ (4 - (encodeUnpadded bytes).length % 4) % 4) :
    decode (encodeUnpadded bytes ++ List.replicate p padding) = .ok bytes := by
  have hlone : (values bytes).length % 4 ≠ 1 := by
    rw [length_values]
    omega
  rw [encodeUnpadded, List.length_map] at hp
  have hlength : ((values bytes).map symbol ++ List.replicate p padding).length % 4 ≠ 1 := by
    rw [List.length_append, List.length_map, List.length_replicate]
    omega
  rw [decode, encodeUnpadded, if_neg hlength, readValues_symbols (values_lt bytes) hlone hp]
  simp only [leftover_values, pack_values, if_pos]

/-! ## Only what is written is read -/

theorem eq_symbols_of_readSymbols {offset : Nat} {input : List UInt8} {vs : List Nat}
    (h : readSymbols offset input = .ok vs) : (∀ v ∈ vs, v < 64) ∧ input = vs.map symbol := by
  induction input generalizing offset vs with
  | nil =>
    obtain rfl : [] = vs := Except.ok.inj h
    exact ⟨by simp, rfl⟩
  | cons byte rest ih =>
    rw [readSymbols] at h
    rcases hv : value? byte with _ | v
    · simp [hv] at h
    rcases hrest : readSymbols (offset + 1) rest with fault | ws
    · simp [hv, hrest, Except.map] at h
    obtain rfl : v :: ws = vs := by simpa [hv, hrest, Except.map] using h
    obtain ⟨hlt, rfl⟩ := symbol_value? hv
    obtain ⟨hws, rfl⟩ := ih hrest
    exact ⟨List.forall_mem_cons.2 ⟨hlt, hws⟩, rfl⟩

/-- Behind padding there is only padding. -/
theorem eq_padding_of_readLastSymbols {offset first : Nat} {input : List UInt8} {vs : List Nat}
    (h : readLastSymbols offset (some first) input = .ok vs) :
    vs = [] ∧ ∃ p, input = List.replicate p padding ∧ PaddingFits offset p := by
  induction input generalizing offset with
  | nil =>
    obtain rfl : [] = vs := Except.ok.inj h
    exact ⟨rfl, 0, rfl, nofun⟩
  | cons byte rest ih =>
    rw [readLastSymbols] at h
    split_ifs at h with hbyte hoffset
    obtain ⟨rfl, p, rfl, hp⟩ := ih h
    exact ⟨rfl, p + 1, by rw [hbyte, List.replicate_succ],
      paddingFits_succ.2 ⟨Nat.not_lt.1 hoffset, hp⟩⟩

theorem eq_symbols_of_readLastSymbols {offset : Nat} {input : List UInt8} {vs : List Nat}
    (h : readLastSymbols offset none input = .ok vs) :
    (∀ v ∈ vs, v < 64) ∧ ∃ p, input = vs.map symbol ++ List.replicate p padding ∧
      PaddingFits (offset + vs.length) p := by
  induction input generalizing offset vs with
  | nil =>
    obtain rfl : [] = vs := Except.ok.inj h
    exact ⟨by simp, 0, rfl, nofun⟩
  | cons byte rest ih =>
    rw [readLastSymbols] at h
    split_ifs at h with hbyte hoffset
    · obtain ⟨rfl, p, rfl, hp⟩ := eq_padding_of_readLastSymbols h
      refine ⟨by simp, p + 1, ?_, paddingFits_succ.2 ⟨Nat.not_lt.1 hoffset, hp⟩⟩
      rw [hbyte, List.replicate_succ, List.map_nil, List.nil_append]
    · rcases hv : value? byte with _ | v
      · simp [hv] at h
      rcases hrest : readLastSymbols (offset + 1) none rest with fault | ws
      · simp [hv, hrest, Except.map] at h
      obtain rfl : v :: ws = vs := by simpa [hv, hrest, Except.map] using h
      obtain ⟨hlt, rfl⟩ := symbol_value? hv
      obtain ⟨hws, p, rfl, hp⟩ := ih hrest
      refine ⟨List.forall_mem_cons.2 ⟨hlt, hws⟩, p, rfl, ?_⟩
      rwa [List.length_cons, Nat.add_comm ws.length, ← Nat.add_assoc]

theorem eq_symbols_of_readValues {input : List UInt8} {vs : List Nat}
    (h : readValues input = .ok vs) :
    (∀ v ∈ vs, v < 64) ∧ ∃ p, input = vs.map symbol ++ List.replicate p padding ∧
      PaddingFits vs.length p := by
  have hstart : lastChunk input.length ≤ input.length := by
    rw [lastChunk]
    omega
  rw [readValues] at h
  generalize lastChunk input.length = start at h hstart
  rcases hfront : readSymbols 0 (input.take start) with fault | front
  · rw [hfront] at h
    cases h
  rcases hlast : readLastSymbols start none (input.drop start) with fault | last
  · rw [hfront, hlast] at h
    cases h
  rw [hfront, hlast] at h
  obtain rfl : front ++ last = vs := Except.ok.inj h
  obtain ⟨hfront, htake⟩ := eq_symbols_of_readSymbols hfront
  obtain ⟨hlast, p, hdrop, hp⟩ := eq_symbols_of_readLastSymbols hlast
  -- the front has a symbol for each of its characters
  have hlength : front.length = start := by
    rw [← List.length_map (f := symbol), ← htake, List.length_take, Nat.min_eq_left hstart]
  refine ⟨List.forall_mem_append.2 ⟨hfront, hlast⟩, p, ?_, ?_⟩
  · rw [List.map_append, List.append_assoc, ← htake, ← hdrop, List.take_append_drop]
  · rwa [List.length_append, hlength]

theorem eq_symbols_of_decode {input bytes : List UInt8} (h : decode input = .ok bytes) :
    ∃ p ≤ (4 - (encodeUnpadded bytes).length % 4) % 4,
      input = encodeUnpadded bytes ++ List.replicate p padding := by
  rw [decode] at h
  split_ifs at h with hlength
  rcases hread : readValues input with fault | vs
  · simp [hread] at h
  simp only [hread] at h
  split_ifs at h with hbits
  obtain rfl : pack vs = bytes := Except.ok.inj h
  obtain ⟨hvs, p, rfl, hp⟩ := eq_symbols_of_readValues hread
  rw [List.length_append, List.length_map, List.length_replicate] at hlength
  -- a lone symbol would be the last character, as no padding fits behind it
  have hlone : vs.length % 4 ≠ 1 := by
    intro hone
    rcases p with _ | p
    · exact hlength hone
    · have := (paddingFits_succ.1 hp).1
      omega
  have hsymbols : encodeUnpadded (pack vs) = vs.map symbol := by
    rw [encodeUnpadded, values_pack hvs hlone hbits]
  rw [hsymbols, List.length_map]
  exact ⟨p, (paddingFits_iff hlone).1 hp, rfl⟩

/-- **Bytes are read from their symbols and from nothing else.** -/
theorem decode_eq_ok_iff {input bytes : List UInt8} :
    decode input = .ok bytes ↔ ∃ p ≤ (4 - (encodeUnpadded bytes).length % 4) % 4,
      input = encodeUnpadded bytes ++ List.replicate p padding := by
  constructor
  · exact eq_symbols_of_decode
  · rintro ⟨p, hp, rfl⟩
    exact decode_symbols bytes hp

/-! ## Encodings as texts -/

theorem encodeUnpadded_lt (bytes : List UInt8) : ∀ b ∈ encodeUnpadded bytes, b.toNat < 128 := by
  intro b hb
  obtain ⟨v, hv, rfl⟩ := List.mem_map.1 hb
  exact symbol_lt v (values_lt bytes v hv)

theorem utf8EncodeChar_ofNat {b : UInt8} (h : b.toNat < 128) :
    String.utf8EncodeChar (Char.ofNat b.toNat) = [b] := by
  have hvalid : b.toNat.isValidChar := Or.inl (by omega)
  have hval : (Char.ofNat b.toNat).val.toNat = b.toNat := by
    rw [Char.ofNat, dif_pos hvalid]
    rfl
  rw [String.utf8EncodeChar.eq_1, hval, if_pos (by omega), UInt8.ofNat_toNat]

/-- The bytes of a text of base64 characters are these characters. -/
theorem utf8_asText {symbols : List UInt8} (h : ∀ b ∈ symbols, b.toNat < 128) :
    Text.utf8 (asText symbols) = symbols := by
  rw [asText, Text.utf8_ofList]
  induction symbols with
  | nil => rfl
  | cons b rest ih =>
    obtain ⟨hb, hrest⟩ := List.forall_mem_cons.1 h
    rw [List.map_cons, List.flatMap_cons, ih hrest, utf8EncodeChar_ofNat hb, List.singleton_append]

theorem utf8_asText_padded (bytes : List UInt8) (p : Nat) :
    Text.utf8 (asText (encodeUnpadded bytes ++ List.replicate p padding)) =
      encodeUnpadded bytes ++ List.replicate p padding := by
  refine utf8_asText (List.forall_mem_append.2 ⟨encodeUnpadded_lt bytes, fun b hb => ?_⟩)
  rw [List.eq_of_mem_replicate hb]
  decide

/-- **The texts of bytes are their symbols with padding**, complete, short or
    missing. -/
theorem decodeText_eq_ok_iff {text : String} {bytes : List UInt8} :
    decodeText text = .ok bytes ↔ ∃ p ≤ (4 - (encodeUnpadded bytes).length % 4) % 4,
      text = asText (encodeUnpadded bytes ++ List.replicate p padding) := by
  rw [decodeText, decode_eq_ok_iff]
  refine exists_congr fun p => and_congr_right fun _ => ?_
  rw [← Text.utf8_inj, utf8_asText_padded]

theorem decodeText_encode (bytes : List UInt8) :
    decodeText (asText (encode bytes)) = .ok bytes :=
  decodeText_eq_ok_iff.2 ⟨_, Nat.le_refl _, rfl⟩

theorem decodeText_encodeUnpadded (bytes : List UInt8) :
    decodeText (asText (encodeUnpadded bytes)) = .ok bytes :=
  decodeText_eq_ok_iff.2 ⟨0, Nat.zero_le _, by rw [List.replicate_zero, List.append_nil]⟩

theorem mem_alphabet_of_mem_asText (bytes : List UInt8) :
    ∀ c ∈ (asText (encodeUnpadded bytes)).toList, c ∈ alphabet := by
  intro c hc
  rw [asText, String.toList_ofList] at hc
  obtain ⟨b, hb, rfl⟩ := List.mem_map.1 hc
  obtain ⟨v, hv, rfl⟩ := List.mem_map.1 hb
  exact List.mem_of_getElem? (alphabet_getElem? v (values_lt bytes v hv))

theorem asText_padded (bytes : List UInt8) (p : Nat) :
    (asText (encodeUnpadded bytes ++ List.replicate p padding)).toList =
      (asText (encodeUnpadded bytes)).toList ++ List.replicate p '=' := by
  rw [asText, asText, String.toList_ofList, String.toList_ofList, List.map_append,
    List.map_replicate, show Char.ofNat padding.toNat = '=' from rfl]

/-- What a text has before its padding. -/
def symbolsOf (text : String) : List Char := text.toList.rdropWhile (· = '=')

theorem symbolsOf_asText (bytes : List UInt8) (p : Nat) :
    symbolsOf (asText (encodeUnpadded bytes ++ List.replicate p padding)) =
      (asText (encodeUnpadded bytes)).toList := by
  rw [symbolsOf, asText_padded]
  induction p with
  | zero =>
    rw [List.replicate_zero, List.append_nil, List.rdropWhile_eq_self_iff]
    intro hne hlast
    have hmem := mem_alphabet_of_mem_asText bytes _ (List.getLast_mem hne)
    rw [of_decide_eq_true hlast] at hmem
    exact equals_notMem_alphabet hmem
  | succ p ih =>
    rw [List.replicate_succ', ← List.append_assoc,
      List.rdropWhile_concat_pos (fun c => decide (c = '=')) _ _ (by simp), ih]

/-- **A text that is read has the symbols of its bytes**, all of them from the
    alphabet and none of them alone in its quad, and behind them at most the
    padding that is missing. -/
theorem symbolsOf_of_decodeText {text : String} {bytes : List UInt8}
    (h : decodeText text = .ok bytes) :
    symbolsOf text = (asText (encodeUnpadded bytes)).toList ∧
      (∀ c ∈ symbolsOf text, c ∈ alphabet) ∧ (symbolsOf text).length % 4 ≠ 1 ∧
      ∃ p ≤ (4 - (symbolsOf text).length % 4) % 4,
        text.toList = symbolsOf text ++ List.replicate p '=' := by
  obtain ⟨p, hp, rfl⟩ := decodeText_eq_ok_iff.1 h
  have hsymbols : (asText (encodeUnpadded bytes)).toList.length =
      (encodeUnpadded bytes).length := by
    rw [asText, String.toList_ofList, List.length_map]
  have hlength : (encodeUnpadded bytes).length % 4 ≠ 1 := by
    rw [encodeUnpadded, List.length_map, length_values]
    omega
  rw [symbolsOf_asText, hsymbols]
  exact ⟨rfl, mem_alphabet_of_mem_asText bytes, hlength, p, hp, asText_padded bytes p⟩

end Base64

end DeviceMail
