import Mathlib.Data.List.TakeWhile
import BearerTokens.Proofs.Url.Numeral

/-!
# IPv6 addresses in hosts

An address is eight pieces of sixteen bits. It is written with two colons in the place of its first longest run of
zeros, and what is written reads back.
-/

set_option autoImplicit false

namespace BearerTokens.Host

open BearerTokens.Text

structure IsAddress (pieces : List Nat) : Prop where
  eight : pieces.length = 8
  small : ∀ p ∈ pieces, p < 65536

namespace Ipv6Pieces

/-- How many of the eight places are taken, if the gap takes one. -/
def used (state : Ipv6Pieces) : Nat :=
  state.pieces.length + if state.gap.isSome = true then 1 else 0

def append (state : Ipv6Pieces) (ps : List Nat) : Ipv6Pieces :=
  { state with pieces := ps.reverse ++ state.pieces }

def Small (state : Ipv6Pieces) : Prop :=
  ∀ p ∈ state.pieces, p < 65536

theorem Small.append {state : Ipv6Pieces} (h : state.Small) {ps : List Nat} (hSmall : ∀ p ∈ ps, p < 65536) :
    (state.append ps).Small := by
  intro p hp
  rw [Ipv6Pieces.append, List.mem_append, List.mem_reverse] at hp
  exact hp.elim (hSmall p) (h p)

theorem full?_isAddress {state : Ipv6Pieces} (h : state.Small) {pieces : List Nat}
    (hFull : state.full? = some pieces) : IsAddress pieces := by
  have hSmall : ∀ p ∈ state.pieces.reverse, p < 65536 := fun p hp => h p (List.mem_reverse.1 hp)
  unfold full? at hFull
  dsimp only at hFull
  split at hFull
  · split at hFull
    · rename_i n _ hShort
      cases hFull
      -- the gap stands for as many zeros as are lacking
      constructor
      · simp only [List.length_append, List.length_take, List.length_drop, List.length_replicate]
        omega
      · intro p hp
        rw [List.mem_append, List.mem_append] at hp
        obtain (hp | hp) | hp := hp
        · exact hSmall p (List.mem_of_mem_take hp)
        · rw [List.eq_of_mem_replicate hp]
          decide
        · exact hSmall p (List.mem_of_mem_drop hp)
    · cases hFull
  · split at hFull
    · rename_i hEight
      cases hFull
      exact ⟨hEight, hSmall⟩
    · cases hFull

end Ipv6Pieces

theorem decimalByte?_lt {s rest : List Char} {n : Nat} (h : decimalByte? s = some (n, rest)) : n < 256 := by
  unfold decimalByte? at h
  dsimp only at h
  split at h
  · cases h
  · cases h
  · split at h
    · cases h
    · obtain ⟨m, -, hm⟩ := Option.bind_eq_some_iff.1 h
      split at hm
      · cases hm
        omega
      · cases hm

theorem embeddedIpv4?_small {s : List Char} {two : List Nat} (h : embeddedIpv4? s = some two) :
    ∀ p ∈ two, p < 65536 := by
  unfold embeddedIpv4? at h
  repeat' split at h
  all_goals try cases h
  rename_i ha _ _ _ hb _ _ _ hc _ _ hd
  have ha := decimalByte?_lt ha
  have hb := decimalByte?_lt hb
  have hc := decimalByte?_lt hc
  have hd := decimalByte?_lt hd
  intro p hp
  rw [List.mem_cons, List.mem_singleton] at hp
  omega

/-- Four hexadecimal digits hold no more than sixteen bits. -/
theorem piece_lt {s : List Char} {p : Char → Bool} {n : Nat} (h : numeral? 16 ((s.take 4).takeWhile p) = some n) :
    n < 65536 := by
  have hLength : ((s.take 4).takeWhile p).length ≤ 4 :=
    Nat.le_trans (List.takeWhile_sublist p).length_le (List.length_take_le 4 s)
  calc n
    _ < 16 ^ ((s.take 4).takeWhile p).length := numeral?_lt h
    _ ≤ 16 ^ 4 := Nat.pow_le_pow_right (by decide) hLength

theorem ipv6From_small {fuel : Nat} {state result : Ipv6Pieces} {s : List Char} (hSmall : state.Small)
    (hRead : ipv6From fuel state s = some result) : result.Small := by
  have hPush {n : Nat} {state : Ipv6Pieces} {s : List Char} {p : Char → Bool} (hSmall : state.Small)
      (hn : numeral? 16 ((s.take 4).takeWhile p) = some n) : (state.append [n]).Small :=
    hSmall.append (List.forall_mem_singleton.2 (piece_lt hn))
  fun_induction ipv6From fuel state s with
  | case1 =>
    cases hRead
    exact hSmall
  | case4 state fuel rest _ ih => exact ih hSmall hRead
  | case6 state fuel s _ _ _ digits rest push n _ hn =>
    cases hRead
    exact hPush hSmall hn
  | case8 state fuel s _ _ _ digits rest push n more _ hn _ ih => exact ih (hPush hSmall hn) hRead
  | case10 state fuel s _ _ _ digits rest push tail _ =>
    obtain ⟨two, hTwo, rfl⟩ := Option.map_eq_some_iff.1 hRead
    exact hSmall.append (embeddedIpv4?_small hTwo)
  | case2 | case3 | case5 | case7 | case9 | case11 => cases hRead

theorem ipv6?_isAddress {s : List Char} {pieces : List Nat} (h : ipv6? s = some pieces) : IsAddress pieces := by
  have hRead {fuel : Nat} {gap : Option Nat} {s : List Char}
      (h : (ipv6From fuel ⟨[], gap⟩ s).bind (·.full?) = some pieces) : IsAddress pieces := by
    obtain ⟨state, hState, hFull⟩ := Option.bind_eq_some_iff.1 h
    have hNone : Ipv6Pieces.Small ⟨[], gap⟩ := by
      intro p hp
      cases hp
    exact Ipv6Pieces.full?_isAddress (ipv6From_small hNone hState) hFull
  unfold ipv6? at h
  split at h
  · exact hRead h
  · cases h
  · cases h
  · cases h
  · exact hRead h

def joined (ps : List Nat) : List Char :=
  [':'].intercalate (ps.map (Nat.toDigits 16))

theorem joined_singleton (p : Nat) : joined [p] = Nat.toDigits 16 p :=
  List.intercalate_singleton

theorem joined_cons_cons (p q : Nat) (ps : List Nat) :
    joined (p :: q :: ps) = Nat.toDigits 16 p ++ ':' :: joined (q :: ps) := by
  rw [joined, List.map_cons, List.map_cons, List.intercalate_cons_cons, List.append_assoc, List.singleton_append]
  rfl

theorem joined_ne_nil {ps : List Nat} (h : ps ≠ []) : joined ps ≠ [] := by
  match ps with
  | [] => exact absurd rfl h
  | [p] =>
    rw [joined_singleton]
    exact Nat.toDigits_ne_nil
  | p :: q :: ps =>
    rw [joined_cons_cons]
    exact List.append_ne_nil_of_right_ne_nil _ (List.cons_ne_nil _ _)

theorem length_le_joined (ps : List Nat) : ps.length ≤ (joined ps).length := by
  induction ps with
  | nil => exact Nat.zero_le _
  | cons p ps ih =>
    cases ps with
    | nil =>
      rw [joined_singleton]
      exact Nat.length_toDigits_pos
    | cons q ps =>
      rw [joined_cons_cons, List.length_append, List.length_cons, List.length_cons (a := ':')]
      omega

theorem toList_intercalate_lowerHex (ps : List Nat) : (":".intercalate (ps.map lowerHex)).toList = joined ps := by
  rw [String.toList_intercalate, List.map_map]
  refine congrArg _ (List.map_congr_left fun p _ => ?_)
  exact String.toList_ofList

theorem toList_colonHex (pieces : List Nat) : (colonHex pieces).toList =
    if (longestZeros pieces).2 < 2 then joined pieces
    else joined (pieces.take (longestZeros pieces).1) ++
      ':' :: ':' :: joined (pieces.drop ((longestZeros pieces).1 + (longestZeros pieces).2)) := by
  unfold colonHex
  dsimp only
  split
  · exact toList_intercalate_lowerHex pieces
  · rw [String.toList_append, String.toList_append, toList_intercalate_lowerHex, toList_intercalate_lowerHex,
      List.append_assoc]
    rfl

/-- The run that is left out is made of zeros. -/
theorem longestZeros_le (pieces : List Nat) : (longestZeros pieces).2 ≤
    ((pieces.drop (longestZeros pieces).1).takeWhile (· == 0)).length := by
  unfold longestZeros
  generalize List.range pieces.length = places
  have hStart : (0, 0).2 ≤ ((pieces.drop (0, 0).1).takeWhile (· == 0)).length := Nat.zero_le _
  generalize ((0, 0) : Nat × Nat) = best at hStart
  induction places generalizing best with
  | nil => exact hStart
  | cons i places ih =>
    refine ih _ ?_
    dsimp only
    split
    · exact Nat.le_refl _
    · exact hStart

theorem take_takeWhile_zeros {ps : List Nat} {k : Nat} (h : k ≤ (ps.takeWhile (· == 0)).length) :
    ps.take k = List.replicate k 0 := by
  have hPrefix : ps.take k = (ps.takeWhile (· == 0)).take k := by
    conv_lhs => rw [← List.takeWhile_append_dropWhile (p := (· == 0)) (l := ps)]
    rw [List.take_append_of_le_length h]
  rw [hPrefix, List.eq_replicate_iff]
  constructor
  · rw [List.length_take, Nat.min_eq_left h]
  · intro p hp
    have hZero := List.mem_takeWhile_imp (p := (· == 0)) (List.mem_of_mem_take hp)
    exact beq_iff_eq.1 hZero

theorem eq_of_longestZeros (pieces : List Nat) : pieces.take (longestZeros pieces).1 ++
    List.replicate (longestZeros pieces).2 0 ++
      pieces.drop ((longestZeros pieces).1 + (longestZeros pieces).2) = pieces := by
  rw [← take_takeWhile_zeros (longestZeros_le pieces), List.append_assoc, ← List.drop_drop, List.take_append_drop,
    List.take_append_drop]

section ReadBack

variable {state : Ipv6Pieces} {n : Nat} {rest : List Char}

theorem isSome_hexValue?_of_mem {c : Char} (hc : c ∈ Nat.toDigits 16 n) :
    (Percent.hexValue? c).isSome = true := by
  obtain ⟨d, hd, rfl⟩ := mem_toDigits (by decide) hc
  rw [hexValue?_digitChar d hd]
  rfl

/-- The digits of a piece end where the piece does. -/
theorem scan_piece (hn : n < 65536) (rest : List Char) (hRest : ∀ c more, rest = c :: more → c = ':') :
    ((Nat.toDigits 16 n ++ rest).take 4).takeWhile (fun c => (Percent.hexValue? c).isSome) = Nat.toDigits 16 n := by
  have hLength : (Nat.toDigits 16 n).length ≤ 4 := (Nat.length_toDigits_le_iff (by decide) (by decide)).2 hn
  have hStop : (rest.take (4 - (Nat.toDigits 16 n).length)).takeWhile (fun c => (Percent.hexValue? c).isSome) = [] := by
    cases rest with
    | nil => rw [List.take_nil, List.takeWhile_nil]
    | cons c more =>
      cases 4 - (Nat.toDigits 16 n).length with
      | zero => rfl
      | succ k =>
        rw [hRest c more rfl]
        rfl
  rw [List.take_append, List.take_of_length_le hLength,
    List.takeWhile_append_of_pos fun c hc => isSome_hexValue?_of_mem hc, hStop, List.append_nil]

theorem ne_colon_of_toDigits (n : Nat) (rest more : List Char) : Nat.toDigits 16 n ++ rest ≠ ':' :: more := by
  intro hEq
  obtain ⟨c, ds, hDigits⟩ := List.exists_cons_of_ne_nil (Nat.toDigits_ne_nil (n := n) (b := 16))
  rw [hDigits, List.cons_append] at hEq
  have hHex := isSome_hexValue?_of_mem (n := n) (c := c) (by rw [hDigits]; exact List.mem_cons_self)
  rw [(List.cons.inj hEq).1] at hHex
  cases hHex

/-- A piece is read with what follows it: nothing, or a colon and more. -/
theorem ipv6From_piece (hRoom : state.used < 8) (hn : n < 65536) (rest : List Char) (fuel : Nat) :
    ipv6From (fuel + 1) state (Nat.toDigits 16 n) = some (state.append [n]) ∧
      (rest ≠ [] → ipv6From (fuel + 1) state (Nat.toDigits 16 n ++ ':' :: rest) =
        ipv6From fuel (state.append [n]) rest) := by
  have hRoom : ¬ 8 ≤ state.pieces.length + if state.gap.isSome = true then 1 else 0 := Nat.not_le.2 hRoom
  constructor
  · have hScan := scan_piece hn [] fun c more h => by cases h
    have hColon := ne_colon_of_toDigits n []
    rw [List.append_nil] at hScan hColon
    rw [ipv6From.eq_4 _ _ _ Nat.toDigits_ne_nil hColon, if_neg hRoom]
    dsimp only
    rw [hScan, numeral?_toDigits (by decide) (by decide), List.drop_length]
    rfl
  · intro hSome
    have hScan := scan_piece hn (':' :: rest) fun c more h => (List.cons.inj h).1.symm
    rw [ipv6From.eq_4 _ _ _ (List.append_ne_nil_of_right_ne_nil _ (List.cons_ne_nil _ _))
      (ne_colon_of_toDigits n _), if_neg hRoom]
    dsimp only
    rw [hScan, numeral?_toDigits (by decide) (by decide), List.drop_left]
    exact if_neg (Bool.not_eq_true _ ▸ List.isEmpty_eq_false_iff.2 hSome)

theorem Ipv6Pieces.append_cons (state : Ipv6Pieces) (p : Nat) (ps : List Nat) :
    (state.append [p]).append ps = state.append (p :: ps) := by
  simp [append]

theorem Ipv6Pieces.used_append (state : Ipv6Pieces) (ps : List Nat) :
    (state.append ps).used = state.used + ps.length := by
  have hGap : (state.append ps).gap = state.gap := rfl
  have hPieces : (state.append ps).pieces.length = ps.length + state.pieces.length := by
    rw [append, List.length_append, List.length_reverse]
  rw [used, used, hGap, hPieces]
  omega

theorem ipv6From_joined {ps : List Nat} (hSmall : ∀ p ∈ ps, p < 65536) (hRoom : state.used + ps.length ≤ 8)
    {fuel : Nat} (hFuel : ps.length ≤ fuel) : ipv6From fuel state (joined ps) = some (state.append ps) := by
  induction ps generalizing state fuel with
  | nil => rw [joined, List.map_nil, List.intercalate_nil, ipv6From.eq_1]; rfl
  | cons p ps ih =>
    obtain ⟨hp, hps⟩ := List.forall_mem_cons.1 hSmall
    rw [List.length_cons] at hRoom hFuel
    obtain ⟨fuel, rfl⟩ : ∃ k, fuel = k + 1 := ⟨fuel - 1, by omega⟩
    have hHere : state.used < 8 := by omega
    have hPiece := ipv6From_piece hHere hp (joined ps) fuel
    cases ps with
    | nil =>
      rw [joined_singleton]
      exact hPiece.1
    | cons q ps =>
      rw [joined_cons_cons, hPiece.2 (joined_ne_nil (List.cons_ne_nil q ps)), ih hps, Ipv6Pieces.append_cons]
      · rw [Ipv6Pieces.used_append, List.length_singleton]
        omega
      · omega

/-- Pieces up to the two colons of the gap. -/
theorem ipv6From_gap {ps : List Nat} (hSome : ps ≠ []) (hSmall : ∀ p ∈ ps, p < 65536) (hGap : state.gap = none)
    (hRoom : state.pieces.length + ps.length < 8) (rest : List Char) (fuel : Nat) :
    ipv6From (fuel + ps.length + 1) state (joined ps ++ ':' :: ':' :: rest) =
      ipv6From fuel { state.append ps with gap := some (state.pieces.length + ps.length) } rest := by
  induction ps generalizing state with
  | nil => exact absurd rfl hSome
  | cons p ps ih =>
    obtain ⟨hp, hps⟩ := List.forall_mem_cons.1 hSmall
    have hUsed : state.used < 8 := by
      rw [Ipv6Pieces.used, hGap]
      simp only [List.length_cons] at hRoom
      simp only [Option.isSome_none, Bool.false_eq_true, if_false]
      omega
    cases ps with
    | nil =>
      -- the piece takes the first of the two colons, and the second one opens the gap
      have hPiece := ipv6From_piece hUsed hp (':' :: rest) (fuel + 1)
      have hFree : ¬ ((state.append [p]).pieces.length = 8 ∨ (state.append [p]).gap.isSome = true) := by
        simp only [Ipv6Pieces.append, List.reverse_singleton, List.singleton_append, List.length_cons, hGap,
          List.length_nil] at hRoom ⊢
        simp only [Option.isSome_none, Bool.false_eq_true, or_false]
        omega
      rw [joined_singleton, List.length_singleton, hPiece.2 (List.cons_ne_nil _ _), ipv6From.eq_3, if_neg hFree]
      rfl
    | cons q ps =>
      have hPiece := ipv6From_piece hUsed hp (joined (q :: ps) ++ ':' :: ':' :: rest)
        (fuel + (q :: ps).length + 1)
      have hRoom' : (state.append [p]).pieces.length + (q :: ps).length < 8 := by
        simp only [Ipv6Pieces.append, List.reverse_singleton, List.singleton_append, List.length_cons] at hRoom ⊢
        omega
      have hGap' : (state.append [p]).gap = none := hGap
      have hMore := ih (List.cons_ne_nil q ps) hps hGap' hRoom'
      have hSame : { (state.append [p]).append (q :: ps) with
            gap := some ((state.append [p]).pieces.length + (q :: ps).length) } =
          { state.append (p :: q :: ps) with gap := some (state.pieces.length + (p :: q :: ps).length) } := by
        rw [Ipv6Pieces.append_cons]
        simp only [Ipv6Pieces.append, List.reverse_singleton, List.singleton_append, List.length_cons]
        congr 2
        omega
      have hFuel : fuel + (p :: q :: ps).length + 1 = fuel + (q :: ps).length + 1 + 1 := rfl
      rw [joined_cons_cons, List.append_assoc, List.cons_append, hFuel,
        hPiece.2 (List.append_ne_nil_of_right_ne_nil _ (List.cons_ne_nil _ _)), hMore, hSame]

end ReadBack

theorem full?_of_gap {before after : List Nat} {k : Nat} (hEight : before.length + k + after.length = 8) (hk : 0 < k) :
    ({ pieces := after.reverse ++ before.reverse, gap := some before.length } : Ipv6Pieces).full? =
      some (before ++ List.replicate k 0 ++ after) := by
  have hReverse : (after.reverse ++ before.reverse).reverse = before ++ after := by simp
  have hShort : (before ++ after).length < 8 := by
    rw [List.length_append]
    omega
  have hZeros : 8 - (before ++ after).length = k := by
    rw [List.length_append]
    omega
  simp only [Ipv6Pieces.full?, hReverse, if_pos hShort, hZeros, List.take_left, List.drop_left]

/-- A text that leads with a piece, and does not end in its first character, is read from there. -/
theorem ipv6?_of_piece {text more : List Char} {p : Nat} (hText : text = Nat.toDigits 16 p ++ more)
    (hLong : 2 ≤ text.length) : ipv6? text = (ipv6From text.length ⟨[], none⟩ text).bind (·.full?) := by
  unfold ipv6?
  split
  · rename_i hColon
    exact absurd hText.symm (ne_colon_of_toDigits p more _)
  · rename_i hColon
    exact absurd hText.symm (ne_colon_of_toDigits p more _)
  · cases hLong
  · exact absurd hLong (by simp)
  · rfl

theorem ipv6?_joined {pieces : List Nat} (h : IsAddress pieces) : ipv6? (joined pieces) = some pieces := by
  obtain ⟨p, q, ps, rfl⟩ : ∃ p q ps, pieces = p :: q :: ps := by
    match pieces, h.eight with
    | p :: q :: ps, _ => exact ⟨p, q, ps, rfl⟩
  have hLong := length_le_joined (p :: q :: ps)
  have hRead : ipv6From (joined (p :: q :: ps)).length ⟨[], none⟩ (joined (p :: q :: ps)) =
      some ⟨(p :: q :: ps).reverse ++ [], none⟩ :=
    ipv6From_joined h.small (by simp [Ipv6Pieces.used, h.eight]) hLong
  rw [h.eight] at hLong
  rw [ipv6?_of_piece (joined_cons_cons p q ps) (by omega), hRead, Option.bind_some]
  simp only [Ipv6Pieces.full?, List.append_nil, List.reverse_reverse, h.eight, if_true]

/-- What is read behind a gap fills the address up. -/
theorem ipv6From_behind_gap {before after : List Nat} {k : Nat} (h : IsAddress (before ++ List.replicate k 0 ++ after))
    (hk : 0 < k) {fuel : Nat} (hFuel : after.length ≤ fuel) :
    (ipv6From fuel ⟨before.reverse, some before.length⟩ (joined after)).bind (·.full?) =
      some (before ++ List.replicate k 0 ++ after) := by
  have hEight : before.length + k + after.length = 8 := by
    simpa only [List.length_append, List.length_replicate] using h.eight
  have hRoom : Ipv6Pieces.used ⟨before.reverse, some before.length⟩ + after.length ≤ 8 := by
    simp only [Ipv6Pieces.used, List.length_reverse, Option.isSome_some, if_true]
    omega
  have hSmall : ∀ p ∈ after, p < 65536 := fun p hp => h.small p (List.mem_append_right _ hp)
  rw [ipv6From_joined hSmall hRoom hFuel, Option.bind_some]
  exact full?_of_gap hEight hk

theorem exists_joined_append (p : Nat) (ps : List Nat) (s : List Char) :
    ∃ more, joined (p :: ps) ++ s = Nat.toDigits 16 p ++ more := by
  cases ps with
  | nil => exact ⟨s, by rw [joined_singleton]⟩
  | cons q ps => exact ⟨':' :: joined (q :: ps) ++ s, by rw [joined_cons_cons, List.append_assoc]⟩

theorem ipv6?_gap {before after : List Nat} {k : Nat} (h : IsAddress (before ++ List.replicate k 0 ++ after))
    (hk : 0 < k) :
    ipv6? (joined before ++ ':' :: ':' :: joined after) = some (before ++ List.replicate k 0 ++ after) := by
  have hEight : before.length + k + after.length = 8 := by
    simpa only [List.length_append, List.length_replicate] using h.eight
  have hLong := length_le_joined after
  cases before with
  | nil =>
    rw [joined, List.map_nil, List.intercalate_nil, List.nil_append, ipv6?]
    refine ipv6From_behind_gap h hk ?_
    rw [List.length_cons, List.length_cons]
    omega
  | cons p ps =>
    have hBefore : ∀ q ∈ p :: ps, q < 65536 := fun q hq =>
      h.small q (List.mem_append_left _ (List.mem_append_left _ hq))
    have hLonger := length_le_joined (p :: ps)
    obtain ⟨more, hText⟩ := exists_joined_append p ps (':' :: ':' :: joined after)
    obtain ⟨fuel, hFuel, hEnough⟩ : ∃ fuel, (joined (p :: ps) ++ ':' :: ':' :: joined after).length =
        fuel + (p :: ps).length + 1 ∧ after.length ≤ fuel := by
      refine ⟨(joined (p :: ps) ++ ':' :: ':' :: joined after).length - (p :: ps).length - 1, ?_, ?_⟩ <;>
        rw [List.length_append, List.length_cons, List.length_cons] <;> omega
    have hNoGap : (Ipv6Pieces.mk [] none).gap = none := rfl
    have hGap := ipv6From_gap (List.cons_ne_nil p ps) hBefore hNoGap (by simp only [List.length_nil]; omega)
      (joined after) fuel
    have hState : { Ipv6Pieces.append ⟨[], none⟩ (p :: ps) with
          gap := some ((Ipv6Pieces.mk [] none).pieces.length + (p :: ps).length) } =
        (⟨(p :: ps).reverse, some (p :: ps).length⟩ : Ipv6Pieces) := by
      simp [Ipv6Pieces.append]
    rw [ipv6?_of_piece hText (by rw [hFuel, List.length_cons]; omega), hFuel, hGap, hState]
    exact ipv6From_behind_gap h hk hEnough

/-- What is written for an address reads back as that address. -/
theorem ipv6?_colonHex {pieces : List Nat} (h : IsAddress pieces) : ipv6? (colonHex pieces).toList = some pieces := by
  rw [toList_colonHex]
  split
  · exact ipv6?_joined h
  · rename_i hLong
    have hSplit := eq_of_longestZeros pieces
    rw [← hSplit] at h
    rw [ipv6?_gap h (by omega), hSplit]

end BearerTokens.Host
