import Mathlib.Data.Nat.Nth
import Mathlib.Data.Nat.NthRoot.Defs
import Mathlib.Data.Nat.Prime.Defs
import StartOnReady.Digest.Sha256

/-!
# The digest by its recurrences

`IsDigest` describes the digest of a message without windows and folds: how the message is padded,
which words stand at which places, how the words of a block continue, what one round makes of the
eight words of the state, and where the constants come from.  Every part has one solution, the one
that is computed (`isPadded_iff`, `IsSchedule.schedule_eq`, `isRound_iff`, `exists_isCourse_iff`),
so there is one digest (`isDigest_iff`).
-/

namespace StartOnReady.Digest

open Sha256 (bigEndian)

/-! ### Numbers in bytes -/

/-- The number that bytes write, the highest first. -/
def numeral (bytes : List UInt8) : Nat := bytes.foldl (fun n byte => 256 * n + byte.toNat) 0

/-- Whether `bytes` are `count` bytes that write `n`. -/
structure Writes (count n : Nat) (bytes : List UInt8) : Prop where
  length : bytes.length = count
  numeral : numeral bytes = n

theorem numeral_concat (bytes : List UInt8) (byte : UInt8) :
    numeral (bytes ++ [byte]) = 256 * numeral bytes + byte.toNat := by
  simp [numeral]

theorem writes_bigEndian {count n : Nat} (fits : n < 256 ^ count) :
    Writes count n (bigEndian count n) := by
  induction count generalizing n with
  | zero => exact ⟨rfl, by simp_all [numeral, bigEndian]⟩
  | succ count ih =>
    obtain ⟨length, number⟩ := ih (n := n / 256) (by rw [Nat.pow_succ] at fits; omega)
    refine ⟨by simp [bigEndian, length], ?_⟩
    rw [bigEndian, numeral_concat, number, UInt8.toNat_ofNat']
    omega

theorem bigEndian_numeral (bytes : List UInt8) :
    bigEndian bytes.length (numeral bytes) = bytes := by
  induction bytes using List.reverseRecOn with
  | nil => rfl
  | append_singleton bytes byte ih =>
    have small : byte.toNat < 256 := byte.toNat_lt
    have high : (256 * numeral bytes + byte.toNat) / 256 = numeral bytes := by omega
    have low : UInt8.ofNat (256 * numeral bytes + byte.toNat) = byte := by
      apply UInt8.toNat.inj
      rw [UInt8.toNat_ofNat']
      omega
    rw [List.length_append, List.length_singleton, bigEndian, numeral_concat, high, low, ih]

/-- There is one way to write a number that fits. -/
theorem writes_iff {count n : Nat} {bytes : List UInt8} (fits : n < 256 ^ count) :
    Writes count n bytes ↔ bytes = bigEndian count n := by
  constructor
  · rintro ⟨rfl, rfl⟩
    exact (bigEndian_numeral bytes).symm
  · rintro rfl
    exact writes_bigEndian fits

theorem bigEndian_mod (count n : Nat) : bigEndian count (n % 256 ^ count) = bigEndian count n := by
  induction count generalizing n with
  | zero => rfl
  | succ count ih =>
    have high : n % 256 ^ (count + 1) / 256 = n / 256 % 256 ^ count := by
      rw [Nat.pow_succ, Nat.mul_comm, Nat.mod_mul_right_div_self]
    have low : UInt8.ofNat (n % 256 ^ (count + 1)) = UInt8.ofNat n := by
      apply UInt8.toNat.inj
      rw [UInt8.toNat_ofNat', UInt8.toNat_ofNat', Nat.mod_mod_of_dvd]
      exact Dvd.intro_left (256 ^ count) rfl
    rw [bigEndian, bigEndian, high, low, ih]

/-! ### Padding -/

/-- Whether a message is padded: by a mark, by as few zeros as whole blocks need, and by the number
of its bits. -/
def IsPadded (message padded : List UInt8) : Prop :=
  ∃ zeros size, padded = message ++ 0x80 :: List.replicate zeros 0 ++ size ∧ zeros < 64 ∧
    Writes 8 (8 * message.length % 2 ^ 64) size ∧ 64 ∣ padded.length

theorem length_bigEndian (count n : Nat) : (bigEndian count n).length = count := by
  rw [← bigEndian_mod]
  exact (writes_bigEndian (Nat.mod_lt _ (Nat.pow_pos (by decide)))).length

theorem isPadded_iff {message padded : List UInt8} :
    IsPadded message padded ↔ padded = Sha256.padded message := by
  have fits : 8 * message.length % 2 ^ 64 < 256 ^ 8 := Nat.mod_lt _ (by decide)
  have size_eq : bigEndian 8 (8 * message.length % 2 ^ 64) = bigEndian 8 (8 * message.length) :=
    bigEndian_mod 8 _
  constructor
  · rintro ⟨zeros, size, rfl, few, writes, whole⟩
    rw [writes_iff fits, size_eq] at writes
    subst writes
    simp only [List.length_append, List.length_cons, List.length_replicate, length_bigEndian]
      at whole
    have same : zeros = Sha256.zeros message.length := by
      unfold Sha256.zeros
      omega
    rw [same]
    rfl
  · rintro rfl
    refine ⟨Sha256.zeros message.length, _, rfl, Nat.mod_lt _ (by decide),
      (writes_iff fits).2 size_eq.symm, ?_⟩
    simp only [Sha256.padded, List.length_append, List.length_cons, List.length_replicate,
      length_bigEndian, Sha256.zeros]
    omega

/-! ### Words -/

/-- The word at a place of a padded message. -/
def wordAt (bytes : List UInt8) (place : Nat) : UInt32 :=
  UInt32.ofNat (numeral ((bytes.drop (4 * place)).take 4))

/-- The digits of a number in base 256 stand side by side. -/
theorem or_shiftLeft_eq (high : Nat) (low : UInt8) :
    high <<< 8 ||| low.toNat = 256 * high + low.toNat := by
  rw [Nat.shiftLeft_eq, Nat.mul_comm high, ← Nat.two_pow_add_eq_or_of_lt low.toNat_lt]

theorem or_shifts_eq_ofNat (a b c d : UInt8) :
    a.toUInt32 <<< 24 ||| b.toUInt32 <<< 16 ||| c.toUInt32 <<< 8 ||| d.toUInt32 =
      UInt32.ofNat (numeral [a, b, c, d]) := by
  have number : numeral [a, b, c, d] =
      ((a.toNat <<< 8 ||| b.toNat) <<< 8 ||| c.toNat) <<< 8 ||| d.toNat := by
    simp [numeral, or_shiftLeft_eq]
  rw [number]
  simp only [Nat.shiftLeft_or_distrib, ← Nat.shiftLeft_add, Nat.reduceAdd, UInt32.ofNat_or,
    UInt32.ofNat_shiftLeft, UInt32.ofNat_uInt8ToNat, Nat.reduceLT]
  rfl

theorem words_eq (bytes : List UInt8) :
    Sha256.words bytes = (List.range (bytes.length / 4)).map (wordAt bytes) := by
  induction bytes using Sha256.words.induct with
  | case1 a b c d rest ih =>
    have count : (a :: b :: c :: d :: rest).length / 4 = rest.length / 4 + 1 := by
      simp only [List.length_cons]
      omega
    rw [Sha256.words, ih, count, List.range_succ_eq_map, List.map_cons, List.map_map,
      or_shifts_eq_ofNat]
    rfl
  | case2 bytes short =>
    have few : bytes.length < 4 := by
      match bytes with
      | [] | [_] | [_, _] | [_, _, _] => simp
      | a :: b :: c :: d :: rest => exact absurd rfl (short a b c d rest)
    rw [Sha256.words, Nat.div_eq_of_lt few]
    · rfl
    · exact short

/-! ### The words of a block -/

/-- The bits of a word moved cyclically to the right. -/
def turned (x n : UInt32) : UInt32 := .ofBitVec (x.toBitVec.rotateRight n.toNat)

theorem rotated_eq_turned (x : UInt32) {n : UInt32} (positive : 0 < n) (below : n < 32) :
    rotated x n = turned x n := by
  have left : n.toBitVec % 32 = n.toBitVec := BitVec.umod_eq_of_lt below
  have right : (32 - n).toBitVec % 32 = (32 - n).toBitVec :=
    BitVec.umod_eq_of_lt (UInt32.sub_lt positive (UInt32.le_of_lt below))
  have rest : (32 - n).toBitVec.toNat = 32 - n.toNat :=
    UInt32.toNat_sub_of_le 32 n (UInt32.le_of_lt below)
  apply UInt32.toBitVec_inj.1
  have inside : n.toNat % 32 = n.toNat := Nat.mod_eq_of_lt (UInt32.lt_iff_toNat_lt.1 below)
  rw [rotated, turned, BitVec.rotateRight_def, inside]
  simp only [UInt32.toBitVec_or, UInt32.toBitVec_shiftLeft, UInt32.toBitVec_shiftRight, left, right,
    BitVec.ushiftRight_eq', BitVec.shiftLeft_eq', rest]
  rfl

/-- Whether `w` begins with the words of a block and continues them. -/
structure IsSchedule (block w : Nat → UInt32) : Prop where
  first : ∀ t < 16, w t = block t
  next : ∀ t, w (t + 16) =
    w t + (turned (w (t + 1)) 7 ^^^ turned (w (t + 1)) 18 ^^^ (w (t + 1) >>> 3)) + w (t + 9) +
      (turned (w (t + 14)) 17 ^^^ turned (w (t + 14)) 19 ^^^ (w (t + 14) >>> 10))

/-- A block as it is continued. -/
def continued (block : Nat → UInt32) (t : Nat) : UInt32 :=
  if t < 16 then block t
  else
    let early := continued block (t - 15)
    let late := continued block (t - 2)
    continued block (t - 16) + (turned early 7 ^^^ turned early 18 ^^^ (early >>> 3)) +
      continued block (t - 7) + (turned late 17 ^^^ turned late 19 ^^^ (late >>> 10))

theorem isSchedule_continued (block : Nat → UInt32) : IsSchedule block (continued block) where
  first t early := by rw [continued, if_pos early]
  next t := by
    rw [continued, if_neg (by omega)]
    rfl

theorem IsSchedule.nextWord_eq {window : List UInt32} {w : Nat → UInt32}
    (h : IsSchedule (fun t => window.getD t 0) w) : Sha256.nextWord window = w 16 := by
  rw [h.next 0, Sha256.nextWord, h.first 0 (by decide), h.first (0 + 1) (by decide),
    h.first (0 + 9) (by decide), h.first (0 + 14) (by decide),
    rotated_eq_turned _ (by decide) (by decide), rotated_eq_turned _ (by decide) (by decide),
    rotated_eq_turned _ (by decide) (by decide), rotated_eq_turned _ (by decide) (by decide)]

/-- The words come out of the sliding window in their order. -/
theorem IsSchedule.schedule_eq {window : List UInt32} {w : Nat → UInt32} (count : Nat)
    (h : IsSchedule (fun t => window.getD t 0) w) (full : window.length = 16) :
    Sha256.schedule count window = (List.range count).map w := by
  induction count generalizing window w with
  | zero => rfl
  | succ count ih =>
    -- The window moves on by one word, and the words are counted from there.
    have slid : IsSchedule (fun t => (window.drop 1 ++ [Sha256.nextWord window]).getD t 0)
        fun t => w (t + 1) := by
      refine ⟨fun t before => ?_, fun t => h.next (t + 1)⟩
      rcases Nat.lt_succ_iff_lt_or_eq.1 before with inside | rfl
      · rw [h.first (t + 1) (by omega), List.getD_append _ _ _ _ (by simp; omega)]
        simp
      · simp [full, h.nextWord_eq]
    rw [Sha256.schedule, ih slid (by simp [full]), ← h.first 0 (by decide), List.range_succ_eq_map,
      List.map_cons, List.map_map]
    rfl

/-! ### Constants -/

/-- The first 32 bits behind the point of the `n`-th root of `p`. -/
def rootFraction (n p : Nat) : UInt32 := UInt32.ofNat (Nat.nthRoot n (p * 2 ^ (32 * n)))

/-- The constant of a round. -/
noncomputable def roundConstant (t : Nat) : UInt32 := rootFraction 3 (Nat.nth Nat.Prime t)

theorem filter_range_eq_map_nth (p : Nat → Prop) [DecidablePred p] (n : Nat) :
    (List.range n).filter p = (List.range (Nat.count p n)).map (Nat.nth p) := by
  induction n with
  | zero => rfl
  | succ n ih =>
    rw [List.range_succ, List.filter_append, ih, Nat.count_succ]
    by_cases here : p n
    · simp [here, List.range_succ, Nat.nth_count]
    · simp [here]

/-- A small number is prime if nothing up to its square root divides it. -/
theorem prime_iff_of_lt {p : Nat} (small : p < 18 * 18) :
    p.Prime ↔ 2 ≤ p ∧ ∀ m < 18, 2 ≤ m → m * m ≤ p → ¬ m ∣ p := by
  rw [Nat.prime_def_le_sqrt]
  refine and_congr_right fun _ => ⟨fun none m _ many square => ?_, fun none m many below => ?_⟩
  · exact none m many (Nat.le_sqrt.2 square)
  · have square : m * m ≤ p := Nat.le_sqrt.1 below
    exact none m (Nat.mul_self_lt_mul_self_iff.1 (by omega)) many square

/-- Values that go through the primes below a bound are those of the first primes. -/
theorem map_nth_prime_eq {α : Type} {f : Nat → α} (bound : Nat) (values : List α)
    (small : bound ≤ 18 * 18)
    (listed : ((List.range bound).filter fun p =>
      2 ≤ p ∧ ∀ m < 18, 2 ≤ m → m * m ≤ p → ¬ m ∣ p).map f = values) :
    (List.range values.length).map (fun t => f (Nat.nth Nat.Prime t)) = values := by
  have primes : (List.range bound).filter (fun p =>
      2 ≤ p ∧ ∀ m < 18, 2 ≤ m → m * m ≤ p → ¬ m ∣ p) = (List.range bound).filter Nat.Prime :=
    List.filter_congr fun p inside => decide_eq_decide.2
      (prime_iff_of_lt (lt_of_lt_of_le (List.mem_range.1 inside) small)).symm
  rw [primes, filter_range_eq_map_nth, List.map_map] at listed
  have count : Nat.count Nat.Prime bound = values.length := by
    simpa using congrArg List.length listed
  rw [← count]
  exact listed

theorem map_roundConstant : (List.range 64).map roundConstant = roundConstants :=
  map_nth_prime_eq 312 roundConstants (by decide) (by decide +kernel)

theorem toList_initial :
    Sha256.initial.toList = (List.range 8).map fun i => rootFraction 2 (Nat.nth Nat.Prime i) :=
  (map_nth_prime_eq 20 Sha256.initial.toList (by decide) (by decide +kernel)).symm

/-! ### Rounds -/

/-- What a round adds to two words of the state. -/
def mixed (k w : UInt32) (s : Sha256) : UInt32 :=
  s.h + (turned s.e 6 ^^^ turned s.e 11 ^^^ turned s.e 25) + ((s.e &&& s.f) ^^^ (~~~s.e &&& s.g)) +
    k + w

/-- Whether a round with the constant `k` and the word `w` leads from `s` to `s'`. -/
structure IsRound (k w : UInt32) (s s' : Sha256) : Prop where
  a : s'.a = mixed k w s + ((turned s.a 2 ^^^ turned s.a 13 ^^^ turned s.a 22) +
    ((s.a &&& s.b) ^^^ (s.a &&& s.c) ^^^ (s.b &&& s.c)))
  b : s'.b = s.a
  c : s'.c = s.b
  d : s'.d = s.c
  e : s'.e = s.d + mixed k w s
  f : s'.f = s.e
  g : s'.g = s.f
  h : s'.h = s.g

theorem isRound_iff {k w : UInt32} {s s' : Sha256} : IsRound k w s s' ↔ s' = s.round (k + w) := by
  have same : s.round (k + w) = ⟨mixed k w s + ((turned s.a 2 ^^^ turned s.a 13 ^^^ turned s.a 22) +
      ((s.a &&& s.b) ^^^ (s.a &&& s.c) ^^^ (s.b &&& s.c))), s.a, s.b, s.c, s.d + mixed k w s, s.e,
      s.f, s.g⟩ := by
    rw [Sha256.round, mixed, UInt32.add_assoc _ k w]
    simp (disch := decide) only [rotated_eq_turned]
  rw [same]
  constructor
  · rintro ⟨a, b, c, d, e, f, g, h⟩
    obtain ⟨⟩ := s'
    simp only at a b c d e f g h
    rw [a, b, c, d, e, f, g, h]
  · rintro rfl
    exact ⟨rfl, rfl, rfl, rfl, rfl, rfl, rfl, rfl⟩

/-- Whether taking in a block leads from `s` to `s'`, with the words `w` and the states `v`. -/
structure IsCourse (block : Nat → UInt32) (s s' : Sha256) (w : Nat → UInt32) (v : Nat → Sha256) :
    Prop where
  schedule : IsSchedule block w
  first : v 0 = s
  next : ∀ t < 64, IsRound (roundConstant t) (w t) (v t) (v (t + 1))
  last : s' = s.add (v 64)

/-- The states between the rounds. -/
theorem foldl_range_eq {α : Type} {f : α → Nat → α} {v : Nat → α} {count : Nat}
    (next : ∀ t < count, v (t + 1) = f (v t) t) : (List.range count).foldl f (v 0) = v count := by
  induction count with
  | zero => rfl
  | succ count ih =>
    rw [List.range_succ, List.foldl_append, ih fun t before => next t (by omega)]
    exact (next count (by omega)).symm

theorem takeBlock_eq {block w : Nat → UInt32} (h : IsSchedule block w) (s : Sha256) :
    s.takeBlock ((List.range 16).map block) =
      s.add ((List.range 64).foldl (fun v t => v.round (roundConstant t + w t)) s) := by
  have window : IsSchedule (fun t => ((List.range 16).map block).getD t 0) w :=
    ⟨fun t before => by simp [h.first t before, before], h.next⟩
  rw [Sha256.takeBlock, window.schedule_eq 64 (by simp), ← map_roundConstant, List.zipWith_map,
    List.zipWith_self, List.foldl_map]

/-- A block has one course, that of `takeBlock`. -/
theorem exists_isCourse_iff {block : Nat → UInt32} {s s' : Sha256} :
    (∃ w v, IsCourse block s s' w v) ↔ s' = s.takeBlock ((List.range 16).map block) := by
  constructor
  · rintro ⟨w, v, schedule, rfl, next, rfl⟩
    rw [takeBlock_eq schedule, foldl_range_eq fun t before => isRound_iff.1 (next t before)]
  · rintro rfl
    have schedule := isSchedule_continued block
    refine ⟨_, fun t => (List.range t).foldl _ s, schedule, rfl, fun t _ => isRound_iff.2 ?_,
      takeBlock_eq schedule s⟩
    rw [List.range_succ, List.foldl_append]
    rfl

/-! ### Digests -/

/-- Whether `s` are the states between the blocks of a padded message. -/
structure IsChain (padded : List UInt8) (s : Nat → Sha256) : Prop where
  first : (s 0).toList = (List.range 8).map fun i => rootFraction 2 (Nat.nth Nat.Prime i)
  next : ∀ n < padded.length / 64,
    ∃ w v, IsCourse (fun t => wordAt padded (16 * n + t)) (s n) (s (n + 1)) w v

/-- Whether `digest` is the digest of a message: the words of the last state, four bytes each. -/
def IsDigest (message digest : List UInt8) : Prop :=
  ∃ (padded : List UInt8) (s : Nat → Sha256) (parts : List (List UInt8)),
    IsPadded message padded ∧ IsChain padded s ∧ digest = parts.flatten ∧
      List.Forall₂ (fun word part => Writes 4 word.toNat part) (s (padded.length / 64)).toList parts

theorem toList_injective : Function.Injective Sha256.toList := by
  rintro ⟨⟩ ⟨⟩ same
  simpa [Sha256.toList] using same

theorem takeBlocks_succ (count : Nat) (input : List UInt32) (s : Sha256) :
    Sha256.takeBlocks (count + 1) input s =
      (Sha256.takeBlocks count input s).takeBlock ((input.drop (16 * count)).take 16) := by
  induction count generalizing input s with
  | zero => rfl
  | succ count ih =>
    rw [Sha256.takeBlocks, ih, Sha256.takeBlocks, List.drop_drop, Nat.mul_succ, Nat.add_comm]

theorem take_drop_words {padded : List UInt8} {n : Nat} (inside : n < padded.length / 64) :
    ((Sha256.words padded).drop (16 * n)).take 16 =
      (List.range 16).map fun t => wordAt padded (16 * n + t) := by
  rw [words_eq]
  refine List.ext_getElem (by simp; omega) fun t _ _ => by simp

/-- The chain of a padded message goes through the states that are computed. -/
theorem IsChain.state_eq {padded : List UInt8} {s : Nat → Sha256} (h : IsChain padded s) {n : Nat}
    (inside : n ≤ padded.length / 64) :
    s n = Sha256.takeBlocks n (Sha256.words padded) Sha256.initial := by
  induction n with
  | zero => exact toList_injective (h.first.trans toList_initial.symm)
  | succ n ih =>
    rw [exists_isCourse_iff.1 (h.next n inside), ih (by omega), takeBlocks_succ,
      take_drop_words inside]

theorem isChain_takeBlocks (padded : List UInt8) :
    IsChain padded fun n => Sha256.takeBlocks n (Sha256.words padded) Sha256.initial where
  first := toList_initial
  next n inside := by
    rw [exists_isCourse_iff, takeBlocks_succ, take_drop_words inside]

/-- The bytes of a state. -/
def bytesOf (s : Sha256) : List UInt8 := s.toList.flatMap fun word => bigEndian 4 word.toNat

theorem forall₂_writes_iff {words : List UInt32} {parts : List (List UInt8)} :
    List.Forall₂ (fun word part => Writes 4 word.toNat part) words parts ↔
      parts = words.map fun word => bigEndian 4 word.toNat := by
  have one (word : UInt32) (part : List UInt8) :
      Writes 4 word.toNat part ↔ bigEndian 4 word.toNat = part :=
    (writes_iff word.toNat_lt).trans eq_comm
  simp only [one, ← List.forall₂_map_left_iff, List.forall₂_eq_eq_eq]
  exact eq_comm

/-- A message has one digest, the one that is computed. -/
theorem isDigest_iff {message digest : List UInt8} :
    IsDigest message digest ↔ digest = bytesOf (Sha256.ofMessage message) := by
  have blocks (padded : List UInt8) : (Sha256.words padded).length / 16 = padded.length / 64 := by
    rw [words_eq, List.length_map, List.length_range, Nat.div_div_eq_div_mul]
  constructor
  · rintro ⟨padded, s, parts, isPadded, chain, rfl, writes⟩
    obtain rfl := isPadded_iff.1 isPadded
    rw [forall₂_writes_iff.1 writes, chain.state_eq le_rfl, ← blocks]
    rfl
  · rintro rfl
    refine ⟨_, _, _, isPadded_iff.2 rfl, isChain_takeBlocks _, rfl, forall₂_writes_iff.2 ?_⟩
    rw [← blocks]
    rfl

/-! ### Hexadecimal digits -/

/-- The two digits of a byte. -/
def hexOfByte (byte : UInt8) : List Char :=
  [Nat.digitChar (byte.toNat / 16), Nat.digitChar (byte.toNat % 16)]

theorem hexPadded_eq_flatMap (count n : Nat) :
    Text.hexPadded (2 * count) n = (bigEndian count n).flatMap hexOfByte := by
  induction count generalizing n with
  | zero => rfl
  | succ count ih =>
    have last : hexOfByte (UInt8.ofNat n) =
        [Nat.digitChar (n / 16 % 16), Nat.digitChar (n % 16)] := by
      have high : n % 256 / 16 = n / 16 % 16 := by omega
      have low : n % 256 % 16 = n % 16 := by omega
      rw [hexOfByte, UInt8.toNat_ofNat', high, low]
    rw [Nat.mul_succ, Text.hexPadded, Text.hexPadded, Nat.div_div_eq_div_mul, ih, bigEndian,
      List.flatMap_append, List.append_assoc, List.flatMap_singleton, last]
    rfl

/-- The digits of a state are those of its bytes. -/
theorem hexDigits_eq (s : Sha256) : s.hexDigits = (bytesOf s).flatMap hexOfByte := by
  rw [Sha256.hexDigits, bytesOf, List.flatMap_assoc]
  congr 1
  funext word
  exact hexPadded_eq_flatMap 4 word.toNat

theorem digitChar_mem : ∀ n < 16, Nat.digitChar n ∈ "0123456789abcdef".toList := by
  decide

theorem mem_of_mem_flatMap_hexOfByte {bytes : List UInt8} {c : Char}
    (h : c ∈ bytes.flatMap hexOfByte) : c ∈ "0123456789abcdef".toList := by
  obtain ⟨byte, -, here⟩ := List.mem_flatMap.1 h
  have small : byte.toNat < 256 := byte.toNat_lt
  rcases List.mem_pair.1 here with rfl | rfl
  · exact digitChar_mem _ (by omega)
  · exact digitChar_mem _ (by omega)

theorem length_flatMap_hexOfByte (bytes : List UInt8) :
    (bytes.flatMap hexOfByte).length = 2 * bytes.length := by
  induction bytes with
  | nil => rfl
  | cons byte bytes ih =>
    rw [List.flatMap_cons, List.length_append, ih, List.length_cons, Nat.mul_succ, Nat.add_comm]
    rfl

theorem length_bytesOf (s : Sha256) : (bytesOf s).length = 32 := by
  simp [bytesOf, Sha256.toList, length_bigEndian]

end StartOnReady.Digest
