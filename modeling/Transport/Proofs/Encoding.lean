import Mathlib
import Transport.Engine.Run
import Transport.Proofs.Doubles
/-!
# The bytes a run result hashes

`RunResult.fingerprint` feeds the deterministic parts of a result to an FNV-1a hash, byte by
byte. This module names the bytes it feeds, `RunResult.encoding`, and shows that they
determine the result, so two results hash alike only when the hash collides, never because
their bytes do. Every part of variable length goes in behind its length, and the tag of the
termination decides what follows it.

The encoding is built from four codes (`wordCode`, `countCode`, `doubleCode`, `textCode`)
and two ways of combining codes (`Code.pair`, `Code.counted`). A code is prefix-free on the
values where a predicate holds (`PrefixFree`) when the bytes of such a value, followed by
anything, determine the value and what follows; each combinator keeps the property, and
every count must fit the 64-bit word it goes in as, as all counts of the program do
(`RunResult.WordSized`).

* `RunResult.fingerprint_eq_bytes`: the fingerprint is the FNV-1a hash of the encoding.
* `wordBytes_injective`: a word's eight bytes are its base-256 digits, so they determine it.
* `doubleCode_prefixFree`: a double goes in by its bits, every NaN by one pattern that no
  number has, and a double is its bits.
* `textCode_prefixFree`: a string goes in as its byte count and its UTF-8 bytes.
* `RunResult.encoding_prefixFree`, `RunResult.encoding_determines_result`: the encoding of
  word-sized results is injective.
-/
namespace Transport

open Fingerprint

/-- A code is prefix-free on the values where `P` holds: the bytes of such a value,
followed by anything, determine the value and what follows. -/
def PrefixFree {α : Type} (P : α → Prop) (code : α → List UInt8) : Prop :=
  ∀ ⦃a b : α⦄ ⦃rest rest' : List UInt8⦄, P a → P b → code a ++ rest = code b ++ rest' →
    a = b ∧ rest = rest'

/-! ## Words -/

@[simp] theorem wordBytes_length (v : UInt64) : (wordBytes v).length = 8 := by
  simp [wordBytes]

theorem wordByte_toNat (v : UInt64) {i : Nat} (hi : i < 8) :
    ((v >>> (8 * i).toUInt64).toUInt8).toNat = v.toNat / 256 ^ i % 256 := by
  rw [UInt64.toNat_toUInt8, UInt64.toNat_shiftRight]
  have hshift : (8 * i).toUInt64.toNat % 64 = 8 * i := by
    simp
    omega
  rw [hshift, Nat.shiftRight_eq_div_pow, pow_mul]
  norm_num

theorem mod_pow_eq_of_digits {a b : Nat} :
    ∀ k, (∀ i < k, a / 256 ^ i % 256 = b / 256 ^ i % 256) → a % 256 ^ k = b % 256 ^ k
  | 0, _ => by simp only [pow_zero, Nat.mod_one]
  | k + 1, h => by
    rw [pow_succ, Nat.mod_mul, Nat.mod_mul, mod_pow_eq_of_digits k fun i hi => h i (by omega),
      h k (by omega)]

theorem wordBytes_digits (v : UInt64) :
    (wordBytes v).map UInt8.toNat = (List.range 8).map fun i => v.toNat / 256 ^ i % 256 := by
  unfold wordBytes
  rw [List.map_map]
  exact List.map_congr_left fun i hi => wordByte_toNat v (List.mem_range.1 hi)

theorem wordBytes_injective : Function.Injective wordBytes := by
  intro v w h
  -- the bytes are the eight digits, and eight digits fix a number below `2 ^ 64`
  have hdigits : ∀ i < 8, v.toNat / 256 ^ i % 256 = w.toNat / 256 ^ i % 256 := by
    have hmap := congrArg (List.map UInt8.toNat) h
    rw [wordBytes_digits, wordBytes_digits, List.map_inj_left] at hmap
    exact fun i hi => hmap i (List.mem_range.2 hi)
  have hv : v.toNat < 256 ^ 8 := v.toNat_lt
  have hw : w.toNat < 256 ^ 8 := w.toNat_lt
  have hmod := mod_pow_eq_of_digits 8 hdigits
  rw [Nat.mod_eq_of_lt hv, Nat.mod_eq_of_lt hw] at hmod
  exact UInt64.toNat_inj.1 hmod

/-- The code of a word: its eight little-endian bytes. -/
def wordCode (v : UInt64) : List UInt8 := wordBytes v

theorem wordCode_prefixFree : PrefixFree (fun _ => True) wordCode := by
  intro v w rest rest' _ _ h
  obtain ⟨hbytes, hrest⟩ := List.append_inj h (by simp [wordCode])
  exact ⟨wordBytes_injective hbytes, hrest⟩

theorem PrefixFree.comap {α β : Type} {P : α → Prop} {code : α → List UInt8}
    (h : PrefixFree P code) {f : β → α} (hf : Function.Injective f) :
    PrefixFree (fun b => P (f b)) (fun b => code (f b)) := by
  intro a b rest rest' ha hb heq
  obtain ⟨hab, hrest⟩ := h ha hb heq
  exact ⟨hf hab, hrest⟩

/-- The code of a count: the word of its value. -/
def countCode (n : Nat) : List UInt8 := wordCode n.toUInt64

theorem countCode_prefixFree : PrefixFree (· < UInt64.size) countCode := by
  intro n m rest rest' hn hm h
  obtain ⟨hnm, hrest⟩ := wordCode_prefixFree trivial trivial h
  refine ⟨?_, hrest⟩
  have := congrArg UInt64.toNat hnm
  simpa [Nat.mod_eq_of_lt hn, Nat.mod_eq_of_lt hm] using this

/-! ## Doubles -/

theorem Float.toBits_of_isNaN {x : Float} (hx : x.isNaN = true) :
    x.toBits.toBitVec = Float.Model.UnpackedFloat.packedNaN .binary64 := by
  rw [Float.isNaN_iff] at hx
  have hvalid := x.toModel.valid.eq_packedNaN
  unfold Float.Model.unpack Float.Model.UnpackedFloat.unpack at hx
  dsimp only at hx
  split at hx
  · split at hx
    · cases hx
    · exact hvalid ‹_› ‹_›
  · split at hx
    · split at hx <;> cases hx
    · cases hx

theorem Float.eq_of_isNaN {x y : Float} (hx : x.isNaN = true) (hy : y.isNaN = true) : x = y :=
  Float.eq_of_toBits_eq (UInt64.toBitVec_inj.1 ((Float.toBits_of_isNaN hx).trans
    (Float.toBits_of_isNaN hy).symm))

theorem Float.isNaN_of_toBits_eq_invalidNaN {x : Float} (h : x.toBits = invalidNaN) :
    x.isNaN = true := by
  rw [Float.isNaN_iff]
  show Float.Model.UnpackedFloat.unpack .binary64 x.toModel.toBits.toBitVec = _
  rw [show x.toModel.toBits = invalidNaN from h]
  rfl

/-- The word a double goes in as: its bits, or `invalidNaN` for NaN. -/
def doubleWord (x : Float) : UInt64 := if x.isNaN then invalidNaN else x.toBits

theorem doubleWord_injective : Function.Injective doubleWord := by
  intro x y h
  unfold doubleWord at h
  by_cases hx : x.isNaN <;> by_cases hy : y.isNaN <;> simp only [hx, hy] at h
  · exact Float.eq_of_isNaN hx hy
  · simp only [Bool.false_eq_true, if_false, if_true] at h
    exact absurd (Float.isNaN_of_toBits_eq_invalidNaN h.symm) hy
  · simp only [Bool.false_eq_true, if_false, if_true] at h
    exact absurd (Float.isNaN_of_toBits_eq_invalidNaN h) hx
  · simpa using Float.eq_of_toBits_eq h

/-- The code of a double the engine computed. -/
def doubleCode (x : Float) : List UInt8 := wordCode (doubleWord x)

theorem doubleCode_prefixFree : PrefixFree (fun _ => True) doubleCode :=
  wordCode_prefixFree.comap doubleWord_injective

/-! ## Strings -/

theorem ByteArray.toList_loop_eq (bs : ByteArray) (i : Nat) (r : List UInt8) :
    ByteArray.toList.loop bs i r = r.reverse ++ bs.data.toList.drop i := by
  fun_induction ByteArray.toList.loop bs i r with
  | case1 i r hi ih =>
    rw [ih, List.reverse_cons, List.append_assoc, List.singleton_append,
      List.drop_eq_getElem_cons (i := i) (l := bs.data.toList) (by simpa using hi)]
    simp [ByteArray.get!, hi]
  | case2 i r hi =>
    rw [List.drop_eq_nil_of_le (by simp; omega), List.append_nil]

theorem ByteArray.toList_eq (bs : ByteArray) : bs.toList = bs.data.toList := by
  simp [ByteArray.toList, ByteArray.toList_loop_eq]

/-- The code of a string: its size in bytes, then its UTF-8 bytes. -/
def textCode (s : String) : List UInt8 := countCode s.utf8ByteSize ++ s.toUTF8.toList

theorem textCode_prefixFree : PrefixFree (·.utf8ByteSize < UInt64.size) textCode := by
  intro s t rest rest' hs ht h
  simp only [textCode, List.append_assoc] at h
  obtain ⟨hsize, hbytes⟩ := countCode_prefixFree hs ht h
  have hlen : ∀ u : String, u.toUTF8.toList.length = u.utf8ByteSize := by
    intro u
    rw [ByteArray.toList_eq, Array.length_toList, String.toUTF8_eq_toByteArray]
    rfl
  obtain ⟨hutf8, hrest⟩ := List.append_inj hbytes (by rw [hlen, hlen, hsize])
  refine ⟨String.toByteArray_inj.1 ?_, hrest⟩
  rw [String.toUTF8_eq_toByteArray, String.toUTF8_eq_toByteArray, ByteArray.toList_eq,
    ByteArray.toList_eq] at hutf8
  exact ByteArray.ext (Array.toList_inj.1 hutf8)

/-! ## Combining codes -/

namespace Code

variable {α β : Type}

def pair (c : α → List UInt8) (d : β → List UInt8) (x : α × β) : List UInt8 := c x.1 ++ d x.2

/-- Values one after the other, with no length before them. -/
def many (c : α → List UInt8) (xs : List α) : List UInt8 := xs.flatMap c

/-- A list of values behind its length. -/
def counted (c : α → List UInt8) (xs : List α) : List UInt8 := countCode xs.length ++ many c xs

end Code

section Combinators

variable {α β : Type} {P : α → Prop} {Q : β → Prop} {c : α → List UInt8} {d : β → List UInt8}

theorem PrefixFree.pair (hc : PrefixFree P c) (hd : PrefixFree Q d) :
    PrefixFree (fun x => P x.1 ∧ Q x.2) (Code.pair c d) := by
  rintro ⟨a, b⟩ ⟨a', b'⟩ rest rest' ⟨ha, hb⟩ ⟨ha', hb'⟩ h
  simp only [Code.pair, List.append_assoc] at h
  obtain ⟨rfl, hsecond⟩ := hc ha ha' h
  obtain ⟨rfl, rfl⟩ := hd hb hb' hsecond
  exact ⟨rfl, rfl⟩

theorem PrefixFree.many (hc : PrefixFree P c) :
    ∀ {xs ys : List α} {rest rest' : List UInt8}, xs.length = ys.length →
      (∀ x ∈ xs, P x) → (∀ y ∈ ys, P y) →
      Code.many c xs ++ rest = Code.many c ys ++ rest' → xs = ys ∧ rest = rest'
  | [], [], _, _, _, _, _, h => ⟨rfl, h⟩
  | x :: xs, y :: ys, rest, rest', hlen, hx, hy, h => by
    simp only [Code.many, List.flatMap_cons, List.append_assoc] at h
    obtain ⟨rfl, htail⟩ := hc (hx x List.mem_cons_self) (hy y List.mem_cons_self) h
    obtain ⟨rfl, rfl⟩ := PrefixFree.many hc (by simpa using hlen)
      (fun x' hx' => hx x' (List.mem_cons_of_mem _ hx'))
      (fun y' hy' => hy y' (List.mem_cons_of_mem _ hy')) htail
    exact ⟨rfl, rfl⟩

theorem PrefixFree.counted (hc : PrefixFree P c) :
    PrefixFree (fun xs => xs.length < UInt64.size ∧ ∀ x ∈ xs, P x) (Code.counted c) := by
  rintro xs ys rest rest' ⟨hxs, hx⟩ ⟨hys, hy⟩ h
  simp only [Code.counted, List.append_assoc] at h
  obtain ⟨hlen, h⟩ := countCode_prefixFree hxs hys h
  exact hc.many hlen hx hy h

end Combinators

/-! ## The parts of a result -/

/-- A count list whose length and values fit in 64-bit words. -/
def CountsFit (ns : List Nat) : Prop := ns.length < UInt64.size ∧ ∀ n ∈ ns, n < UInt64.size

namespace Termination

/-- The code of a termination: tag 0, or tag 1 followed by the alive and pending counts. -/
def code : Termination → List UInt8
  | .drained => countCode 0
  | .budgetExhausted alive pending => countCode 1 ++ countCode alive ++ countCode pending

/-- The counts of a termination fit in 64-bit words. -/
def WordSized : Termination → Prop
  | .drained => True
  | .budgetExhausted alive pending => alive < UInt64.size ∧ pending < UInt64.size

theorem code_prefixFree : PrefixFree WordSized code := by
  intro t t' rest rest' ht ht' h
  cases t with
  | drained =>
    cases t' with
    | drained => exact ⟨rfl, (List.append_cancel_left h)⟩
    | budgetExhausted a p =>
      simp only [code, List.append_assoc] at h
      exact absurd (countCode_prefixFree (by decide) (by decide) h).1 (by decide)
  | budgetExhausted a p =>
    cases t' with
    | drained =>
      simp only [code, List.append_assoc] at h
      exact absurd (countCode_prefixFree (by decide) (by decide) h).1 (by decide)
    | budgetExhausted a' p' =>
      simp only [code, List.append_assoc] at h
      obtain ⟨-, hcounts⟩ := countCode_prefixFree (by decide) (by decide) h
      obtain ⟨rfl, hpending⟩ := countCode_prefixFree ht.1 ht'.1 hcounts
      obtain ⟨rfl, rfl⟩ := countCode_prefixFree ht.2 ht'.2 hpending
      exact ⟨rfl, rfl⟩

end Termination

namespace Histogram

/-- The code of a histogram: its edges and its bins, each behind their number, then the
underflow and the overflow. -/
def code (h : Histogram) : List UInt8 :=
  Code.counted doubleCode h.edges.toList ++ Code.counted doubleCode h.values.toList ++
    doubleCode h.underflow ++ doubleCode h.overflow

def parts (h : Histogram) : List Float × List Float × Float × Float :=
  (h.edges.toList, h.values.toList, h.underflow, h.overflow)

theorem parts_injective : Function.Injective parts := by
  rintro ⟨e, v, u, o⟩ ⟨e', v', u', o'⟩ h
  simp only [parts, Prod.mk.injEq, Array.toList_inj] at h
  obtain ⟨rfl, rfl, rfl, rfl⟩ := h
  rfl

theorem code_prefixFree :
    PrefixFree (fun h : Histogram => h.edges.size < UInt64.size ∧ h.values.size < UInt64.size)
      code := by
  have hparts := (doubleCode_prefixFree.counted.pair (doubleCode_prefixFree.counted.pair
    (doubleCode_prefixFree.pair doubleCode_prefixFree))).comap parts_injective
  intro h h' rest rest' hs hs' heq
  refine hparts ⟨⟨by simpa [parts] using hs.1, by simp⟩, ⟨by simpa [parts] using hs.2, by simp⟩,
    trivial, trivial⟩ ⟨⟨by simpa [parts] using hs'.1, by simp⟩,
    ⟨by simpa [parts] using hs'.2, by simp⟩, trivial, trivial⟩ ?_
  simpa [code, parts, Code.pair, List.append_assoc] using heq

end Histogram

namespace Counters

/-- A step's ten counts, the arena flag last as 0 or 1. -/
def words (c : Counters) : List Nat :=
  [c.step, c.active, c.initialized, c.alive, c.pending, c.secondaries, c.promoted, c.killed,
    c.failedInteractions, if c.arenaExhausted then 1 else 0]

/-- The code of a step's counts: its ten words. -/
def code (c : Counters) : List UInt8 := Code.many countCode c.words

/-- The counts of a step fit in 64-bit words. -/
def WordSized (c : Counters) : Prop := ∀ n ∈ c.words, n < UInt64.size

theorem words_injective : Function.Injective words := by
  rintro ⟨s, a, i, l, p, se, pr, k, f, e⟩ ⟨s', a', i', l', p', se', pr', k', f', e'⟩ h
  simp only [words, List.cons.injEq, and_true] at h
  obtain ⟨rfl, rfl, rfl, rfl, rfl, rfl, rfl, rfl, rfl, he⟩ := h
  cases e <;> cases e' <;> simp_all

theorem code_prefixFree : PrefixFree WordSized code := by
  intro c c' rest rest' hc hc' h
  obtain ⟨hwords, hrest⟩ := countCode_prefixFree.many (by simp [words]) hc hc' h
  exact ⟨words_injective hwords, hrest⟩

end Counters

/-! ## Feeding the codes to the hash -/

namespace Fingerprint

theorem bytes_append (h : Fingerprint) (a b : List UInt8) : h.bytes (a ++ b) = (h.bytes a).bytes b :=
  List.foldl_append

theorem count_eq (h : Fingerprint) (n : Nat) : h.count n = h.bytes (countCode n) := rfl

theorem computed_eq (h : Fingerprint) (x : Float) : h.computed x = h.bytes (doubleCode x) := rfl

theorem text_eq (h : Fingerprint) (s : String) : h.text s = h.bytes (textCode s) := by
  rw [textCode, bytes_append]
  rfl

theorem foldl_bytes {α : Type} {step : Fingerprint → α → Fingerprint} (c : α → List UInt8)
    (hstep : ∀ h x, step h x = h.bytes (c x)) (xs : List α) (h : Fingerprint) :
    xs.foldl step h = h.bytes (Code.many c xs) := by
  induction xs generalizing h with
  | nil => rfl
  | cons x xs ih => simp only [List.foldl_cons, ih, hstep, Code.many, List.flatMap_cons, bytes_append]

theorem computedList_eq (h : Fingerprint) (xs : List Float) :
    h.computedList xs = h.bytes (Code.counted doubleCode xs) := by
  rw [computedList, foldl_bytes doubleCode computed_eq, Code.counted, bytes_append]
  rfl

theorem words_eq (h : Fingerprint) (ns : List Nat) :
    h.words (ns.map Nat.toUInt64) = h.bytes (Code.counted countCode ns) := by
  rw [words, List.foldl_map,
    foldl_bytes countCode fun h n => (rfl : h.word n.toUInt64 = h.bytes (countCode n)),
    List.length_map, Code.counted, bytes_append]
  rfl

end Fingerprint

theorem Histogram.feed_eq (hist : Histogram) (f : Fingerprint) : hist.feed f = f.bytes hist.code := by
  simp only [Histogram.feed, Histogram.code, Fingerprint.computedList_eq, Fingerprint.computed_eq,
    Fingerprint.bytes_append]

theorem RunResult.feedCounters_eq (f : Fingerprint) (c : Counters) :
    RunResult.feedCounters f c = f.bytes c.code := by
  simp only [RunResult.feedCounters, Counters.code, Counters.words, Code.many, List.flatMap_cons,
    List.flatMap_nil, List.append_nil, Fingerprint.count_eq, Fingerprint.bytes_append]

namespace RunResult

/-- The code of one particle's step counts at death: its name, then the counts behind their
number. -/
def deathsCode : String × Array Nat → List UInt8 :=
  Code.pair textCode fun counts => Code.counted countCode counts.toList

/-- The code of one particle's interaction counts: its name, then each model's label and
count, behind their number. -/
def interactionsCode : String × List (String × Nat) → List UInt8 :=
  Code.pair textCode (Code.counted (Code.pair textCode countCode))

/-- The bytes a result's fingerprint is fed, in order: the termination, the steps and the
primaries, the alive counts, the energy histogram, the step counts at death, the
interaction counts and every step's counts, each list behind its length. -/
def encoding (r : RunResult) : List UInt8 :=
  r.termination.code ++ countCode r.steps ++ countCode r.primaries ++
    Code.counted countCode r.alivePerStep ++ r.energyDeposition.code ++
    Code.counted deathsCode r.stepsAtDeath ++ Code.counted interactionsCode r.interactions ++
    Code.counted Counters.code r.counters

/-- Every count of a result fits in a 64-bit word, as the program's counts, lengths and
string sizes do. -/
def WordSized (r : RunResult) : Prop :=
  r.termination.WordSized ∧ r.steps < UInt64.size ∧ r.primaries < UInt64.size ∧
    CountsFit r.alivePerStep ∧
    r.energyDeposition.edges.size < UInt64.size ∧ r.energyDeposition.values.size < UInt64.size ∧
    r.stepsAtDeath.length < UInt64.size ∧
    (∀ e ∈ r.stepsAtDeath, e.1.utf8ByteSize < UInt64.size ∧ CountsFit e.2.toList) ∧
    r.interactions.length < UInt64.size ∧
    (∀ e ∈ r.interactions, e.1.utf8ByteSize < UInt64.size ∧ e.2.length < UInt64.size ∧
      ∀ m ∈ e.2, m.1.utf8ByteSize < UInt64.size ∧ m.2 < UInt64.size) ∧
    r.counters.length < UInt64.size ∧ ∀ c ∈ r.counters, c.WordSized

theorem deathsCode_prefixFree :
    PrefixFree (fun e : String × Array Nat => e.1.utf8ByteSize < UInt64.size ∧ CountsFit e.2.toList)
      deathsCode :=
  textCode_prefixFree.pair
    (countCode_prefixFree.counted.comap fun _ _ h => Array.toList_inj.1 h)

theorem interactionsCode_prefixFree :
    PrefixFree (fun e : String × List (String × Nat) => e.1.utf8ByteSize < UInt64.size ∧
      e.2.length < UInt64.size ∧ ∀ m ∈ e.2, m.1.utf8ByteSize < UInt64.size ∧ m.2 < UInt64.size)
      interactionsCode :=
  textCode_prefixFree.pair (textCode_prefixFree.pair countCode_prefixFree).counted

theorem encoding_prefixFree : PrefixFree WordSized encoding := by
  rintro ⟨t, s, p, a, h, d, i, c⟩ ⟨t', s', p', a', h', d', i', c'⟩ rest rest'
    ⟨ht, hs, hp, ha, he, hv, hdl, hd, hil, hi, hcl, hc⟩
    ⟨ht', hs', hp', ha', he', hv', hdl', hd', hil', hi', hcl', hc'⟩ heq
  simp only [encoding, List.append_assoc] at heq
  -- each part determines itself and leaves the rest to the next
  obtain ⟨rfl, h1⟩ := Termination.code_prefixFree ht ht' heq
  obtain ⟨rfl, h2⟩ := countCode_prefixFree hs hs' h1
  obtain ⟨rfl, h3⟩ := countCode_prefixFree hp hp' h2
  obtain ⟨rfl, h4⟩ := countCode_prefixFree.counted ha ha' h3
  obtain ⟨rfl, h5⟩ := Histogram.code_prefixFree ⟨he, hv⟩ ⟨he', hv'⟩ h4
  obtain ⟨rfl, h6⟩ := deathsCode_prefixFree.counted ⟨hdl, hd⟩ ⟨hdl', hd'⟩ h5
  obtain ⟨rfl, h7⟩ := interactionsCode_prefixFree.counted ⟨hil, hi⟩ ⟨hil', hi'⟩ h6
  obtain ⟨rfl, rfl⟩ := Counters.code_prefixFree.counted ⟨hcl, hc⟩ ⟨hcl', hc'⟩ h7
  exact ⟨rfl, rfl⟩

theorem fingerprint_eq_bytes (r : RunResult) :
    r.fingerprint = (Fingerprint.new.bytes r.encoding).value := by
  unfold fingerprint
  dsimp only
  rw [Fingerprint.foldl_bytes countCode Fingerprint.count_eq,
    Fingerprint.foldl_bytes deathsCode, Fingerprint.foldl_bytes interactionsCode,
    Fingerprint.foldl_bytes Counters.code feedCounters_eq]
  · rw [encoding]
    cases r.termination <;>
      simp only [Termination.code, Histogram.feed_eq, Fingerprint.count_eq, Code.counted,
        ← Fingerprint.bytes_append, List.append_assoc]
  · -- one particle's interaction counts: its name, their number, then each label and count
    rintro f ⟨name, models⟩
    dsimp only
    rw [Fingerprint.foldl_bytes (Code.pair textCode countCode)]
    · simp only [interactionsCode, Code.pair, Code.counted, Fingerprint.text_eq,
        Fingerprint.count_eq, ← Fingerprint.bytes_append, List.append_assoc]
    · rintro g ⟨label, n⟩
      rw [Fingerprint.text_eq, Fingerprint.count_eq, ← Fingerprint.bytes_append]
      rfl
  · rintro f ⟨name, counts⟩
    rw [Fingerprint.text_eq, Fingerprint.words_eq, ← Fingerprint.bytes_append]
    rfl

/-- The fingerprint of a result is the FNV-1a hash of its encoding, and the encoding of
results whose counts fit in 64-bit words determines them: two such results have the same
encoding exactly when they are equal, their doubles compared by their bits and their tables
as lists of entries in order. -/
theorem encoding_determines_result (r r' : RunResult) (hr : r.WordSized) (hr' : r'.WordSized) :
    r.fingerprint = (Fingerprint.new.bytes r.encoding).value ∧
      (r.encoding = r'.encoding ↔ r = r') := by
  refine ⟨fingerprint_eq_bytes r, fun h => ?_, fun h => h ▸ rfl⟩
  exact (@encoding_prefixFree r r' [] [] hr hr' (by rw [h])).1

/-- A run stopped by its step budget with one track alive and two pending. -/
def budgetStopped : RunResult :=
  { termination := .budgetExhausted 1 2, steps := 1, primaries := 3, alivePerStep := [1],
    energyDeposition := ⟨#[0.0, 1.0], #[0.5], 0.0, 0.0⟩, stepsAtDeath := [("gamma", #[1])],
    interactions := [("gamma", [("absorption", 1)])],
    counters := [⟨0, 1, 1, 1, 2, 0, 0, 0, 0, false⟩] }

theorem budgetStopped_wordSized : budgetStopped.WordSized := by
  simp only [WordSized, budgetStopped, Termination.WordSized, CountsFit, Counters.WordSized,
    Counters.words]
  decide

theorem budgetStopped_drained_wordSized :
    ({ budgetStopped with termination := .drained } : RunResult).WordSized := by
  simp only [WordSized, budgetStopped, Termination.WordSized, CountsFit, Counters.WordSized,
    Counters.words]
  decide

theorem budgetStopped_determined_by_encoding :
    budgetStopped.WordSized ∧ ({ budgetStopped with termination := .drained } : RunResult).WordSized ∧
      (budgetStopped.fingerprint = (Fingerprint.new.bytes budgetStopped.encoding).value ∧
        (budgetStopped.encoding = ({ budgetStopped with termination := .drained } : RunResult).encoding ↔
          budgetStopped = { budgetStopped with termination := .drained })) :=
  ⟨budgetStopped_wordSized, budgetStopped_drained_wordSized,
    encoding_determines_result _ _ budgetStopped_wordSized budgetStopped_drained_wordSized⟩

end RunResult

end Transport
