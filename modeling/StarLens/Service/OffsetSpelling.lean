import StarLens.Repository.NumericCells
import StarLens.Service.OffsetLag

/-! # The spelling of offsets

Offsets arrive as texts or as numbers. A text is read as an integer, a number
goes through a float64. -/

namespace StarLens.Service

open Alert (Document Json)
open Go Repository

structure OffsetMap where
  entries : List (String × Int64)
  distinct : (entries.map Prod.fst).Nodup

def OffsetMap.lookup (offsets : OffsetMap) (partition : String) : Option Int64 :=
  offsets.entries.lookup partition

/-! ## Values -/

def throughFloat (offset : Int64) : Int64 := (Float64.round offset.toInt).toInt64

/-- What an offset is read as, spelled as a number or as a text. -/
def reading (asNumber : Bool) (offset : Int64) : Int64 :=
  if asNumber then throughFloat offset else offset

def Spells (offset : Int64) : Json → Prop
  | .string text => Strconv.parseInt text = some offset
  | .number value _ => value = offset.toInt
  | _ => False

def ExactFloat (offset : Int64) : Prop := Float64.nearest offset.toInt = offset.toInt

theorem toFloat64?_offset (offset : Int64) (integral : Bool) :
    Json.toFloat64? (.number offset.toInt integral) = some (.round offset.toInt) := by
  rw [Json.toFloat64?, Float64.ofLiteral,
    if_neg (not_le.mpr (Float64.abs_toInt_lt_overflow offset))]

theorem throughFloat_eq_iff (offset : Int64) :
    throughFloat offset = offset ↔ ExactFloat offset := by
  have whole (value : Int) : truncate value = value := by simp [truncate]
  rcases Float64.nearest_intCast offset.toInt with ⟨value, rounded⟩
  rcases Float64.round_toInt rounded with ⟨float, converted⟩
  rw [throughFloat, converted, ExactFloat, rounded]
  constructor
  · intro same
    by_cases inside : -2 ^ 63 ≤ value ∧ value < 2 ^ 63
    · rw [← Int64.toInt_inj, toInt_toInt64 (by rw [whole]; exact inside.1)
        (by rw [whole]; exact inside.2), whole] at same
      rw [same]
    · change (if -2 ^ 63 ≤ truncate value ∧ truncate value < 2 ^ 63 then
        Int64.ofInt (truncate value) else Int64.minValue) = offset at same
      rw [whole, if_neg inside] at same
      have least : (offset.toInt : ℚ) = -2 ^ 63 := by
        rw [← same, Int64.toInt_minValue]
        norm_num
      have representable : Float64.Representable offset.toInt :=
        ⟨-1, 63, by norm_num, by norm_num, by rw [least]; norm_num⟩
      rw [← rounded, Float64.nearest_of_representable representable]
  · intro exact
    have same : value = offset.toInt := by exact_mod_cast exact
    subst same
    rw [← Int64.toInt_inj, toInt_toInt64 (by rw [whole]; exact offset.le_toInt)
      (by rw [whole]; exact offset.toInt_lt), whole]

private theorem offset?_of_spells {offset : Int64} {value : Json} (spells : Spells offset value) :
    ∃ asNumber, offset? value = some (reading asNumber offset) := by
  cases value with
  | string text => exact ⟨false, spells⟩
  | number value integral =>
      cases spells
      exact ⟨true, by rw [offset?, toFloat64?_offset]; rfl⟩
  | null | bool | compound => cases spells

private theorem readableNumber_of_spells {offset : Int64} {value : Json}
    (spells : Spells offset value) : readableNumber value := by
  cases value with
  | string text => rfl
  | number value integral =>
      cases spells
      rw [readableNumber, toFloat64?_offset]
      rfl
  | null | bool | compound => cases spells

/-! ## Objects -/

/-- Every member spells the offset of its partition, and every partition has a
member. -/
structure SpelledBy (offsets : OffsetMap) (members : List (String × Json)) : Prop where
  spelled : ∀ member ∈ members, ∃ offset, offsets.lookup member.1 = some offset ∧
    Spells offset member.2
  complete : ∀ partition, (offsets.lookup partition).isSome → partition ∈ members.map Prod.fst

def OffsetMap.read (offsets : OffsetMap) (asNumber : String → Bool) (partition : String) :
    Option Int64 :=
  (offsets.lookup partition).map (reading (asNumber partition))

private theorem lastValue_eq_none_iff (members : List (String × Json)) (name : String) :
    lastValue members name = none ↔ name ∉ members.map Prod.fst := by
  rw [lastValue, List.lookup_eq_none_iff]
  simp only [List.mem_reverse, bne_iff_ne, List.mem_map, not_exists, not_and]
  exact forall₂_congr fun member _ => ne_comm

theorem SpelledBy.offsetOf_eq {offsets : OffsetMap} {members : List (String × Json)}
    (spelledBy : SpelledBy offsets members) (partition : String) :
    ∃ asNumber, offsetOf members partition =
      (offsets.lookup partition).map (reading asNumber) := by
  cases last : lastValue members partition with
  | none =>
      have absent := mt (spelledBy.complete partition) ((lastValue_eq_none_iff _ _).mp last)
      rw [Option.not_isSome_iff_eq_none] at absent
      exact ⟨false, by rw [offsetOf, last, absent]; rfl⟩
  | some value =>
      rcases spelledBy.spelled _ (mem_of_lastValue last) with ⟨offset, held, spells⟩
      rcases offset?_of_spells spells with ⟨asNumber, read⟩
      exact ⟨asNumber, by rw [offsetOf, last, held, Option.bind_some, read]; rfl⟩

theorem SpelledBy.read {offsets : OffsetMap} {members : List (String × Json)}
    (spelledBy : SpelledBy offsets members) :
    ∃ asNumber, offsetOf members = offsets.read asNumber := by
  choose asNumber same using spelledBy.offsetOf_eq
  exact ⟨asNumber, funext same⟩

def OffsetMap.spell (offsets : OffsetMap) (asNumber : String → Bool) : List (String × Json) :=
  offsets.entries.map fun entry =>
    (entry.1, if asNumber entry.1 then .number entry.2.toInt true
      else .string (toString entry.2.toInt))

theorem OffsetMap.spelledBy (offsets : OffsetMap) (asNumber : String → Bool) :
    SpelledBy offsets (offsets.spell asNumber) where
  spelled := by
    intro member held
    rcases List.mem_map.mp held with ⟨entry, listed, same⟩
    subst same
    refine ⟨entry.2, (lookup_eq_some_iff_mem offsets.distinct entry.1 entry.2).mpr listed, ?_⟩
    split
    · rfl
    · exact Strconv.parseInt_toString entry.2
  complete := by
    intro partition held
    rcases Option.isSome_iff_exists.mp held with ⟨offset, found⟩
    have listed := (lookup_eq_some_iff_mem offsets.distinct partition offset).mp found
    exact List.mem_map.mpr ⟨_, List.mem_map.mpr ⟨_, listed, rfl⟩, rfl⟩

theorem OffsetMap.offsetOf_spell (offsets : OffsetMap) (asNumber : String → Bool) :
    offsetOf (offsets.spell asNumber) = offsets.read asNumber := by
  have distinct : ((offsets.spell asNumber).map Prod.fst).Nodup := by
    rw [OffsetMap.spell, List.map_map]
    exact offsets.distinct
  have value (partition : String) : lastValue (offsets.spell asNumber) partition =
      (offsets.lookup partition).map fun offset =>
        if asNumber partition then .number offset.toInt true
        else .string (toString offset.toInt) := by
    rw [lastValue, ← lookup_perm (List.reverse_perm _).symm distinct, OffsetMap.spell]
    exact lookup_map (fun name offset => if asNumber name then Json.number offset.toInt true
      else .string (toString offset.toInt)) offsets.entries partition
  funext partition
  rw [offsetOf, value, OffsetMap.read]
  cases offsets.lookup partition with
  | none => rfl
  | some offset =>
      rw [Option.map_some, Option.bind_some, Option.map_some, reading]
      split
      · rw [offset?, toFloat64?_offset]
        rfl
      · exact Strconv.parseInt_toString offset

/-! ## Gains -/

def Ahead (position consumed : Int64) : Prop :=
  0 < position.toInt - consumed.toInt ∧ position.toInt - consumed.toInt < 2 ^ 63 ∨
    position.toInt - consumed.toInt < -2 ^ 63

private theorem ahead_iff (position consumed : Int64) :
    Ahead position consumed ↔ 0 < (position - consumed).toInt := by
  have positionLow := position.le_toInt
  have positionHigh := position.toInt_lt
  have consumedLow := consumed.le_toInt
  have consumedHigh := consumed.toInt_lt
  rw [Ahead]
  rcases toInt_sub_cases position consumed with ⟨_, _, same⟩ | ⟨_, same⟩ | ⟨_, same⟩ <;> omega

theorem gain_of_ahead {position consumed : Int64} (ahead : Ahead position consumed) :
    gain position consumed = (position - consumed).toInt :=
  max_eq_right ((ahead_iff position consumed).mp ahead).le

theorem gain_eq_zero_iff (position consumed : Int64) :
    gain position consumed = 0 ↔ ¬Ahead position consumed := by
  rw [ahead_iff, gain, max_eq_left_iff, not_lt]

/-- Both offsets are float64 values, or no reading of the position is ahead of
one of the consumed offset. -/
def SpellingFree (position consumed : Int64) : Prop :=
  (ExactFloat position ∧ ExactFloat consumed) ∨
    ∀ latestNumber progressNumber,
      ¬Ahead (reading latestNumber position) (reading progressNumber consumed)

private theorem gain_reading_iff (position consumed : Int64) :
    (∀ latestNumber progressNumber,
      gain (reading latestNumber position) (reading progressNumber consumed) =
        gain position consumed) ↔ SpellingFree position consumed := by
  constructor
  · intro agree
    by_cases ahead : Ahead position consumed
    · have positionAgrees := agree true false
      have consumedAgrees := agree false true
      have both : ∀ latestNumber progressNumber,
          Ahead (reading latestNumber position) (reading progressNumber consumed) := by
        intro latestNumber progressNumber
        by_contra caughtUp
        rw [← gain_eq_zero_iff, agree, gain_eq_zero_iff] at caughtUp
        exact caughtUp ahead
      rw [gain_of_ahead (both true false), gain_of_ahead ahead, Int64.toInt_inj] at positionAgrees
      rw [gain_of_ahead (both false true), gain_of_ahead ahead, Int64.toInt_inj] at consumedAgrees
      have positionSame := (Int64.sub_left_inj consumed).mp positionAgrees
      have consumedSame := (Int64.sub_right_inj position).mp consumedAgrees
      exact .inl ⟨(throughFloat_eq_iff position).mp positionSame,
        (throughFloat_eq_iff consumed).mp consumedSame⟩
    · apply Or.inr
      intro latestNumber progressNumber
      rw [← gain_eq_zero_iff, agree, gain_eq_zero_iff]
      exact ahead
  · intro free latestNumber progressNumber
    rcases free with ⟨positionExact, consumedExact⟩ | caughtUp
    · have positionRead : reading latestNumber position = position := by
        rw [reading, (throughFloat_eq_iff position).mpr positionExact, ite_self]
      have consumedRead : reading progressNumber consumed = consumed := by
        rw [reading, (throughFloat_eq_iff consumed).mpr consumedExact, ite_self]
      rw [positionRead, consumedRead]
    · rw [(gain_eq_zero_iff _ _).mpr (caughtUp latestNumber progressNumber)]
      exact ((gain_eq_zero_iff _ _).mpr (caughtUp false false)).symm

/-! ## The lag of every mixture -/

section Mixtures

variable (parse : String → Except String Document)

def Spelled (offsets : OffsetMap) (raw : String) : Prop :=
  ∃ members, IsObject parse raw members ∧ SpelledBy offsets members

def SpellingsAgree (progress latest : OffsetMap) : Prop :=
  ∀ (orders otherOrders : OffsetOrders) (progressRaw latestRaw otherProgress otherLatest : String),
    Spelled parse progress progressRaw → Spelled parse latest latestRaw →
    Spelled parse progress otherProgress → Spelled parse latest otherLatest →
    computeOffsetLagIn parse orders progressRaw latestRaw =
      computeOffsetLagIn parse otherOrders otherProgress otherLatest

def OffsetMap.partitions (offsets : OffsetMap) : Finset String :=
  (offsets.entries.map Prod.fst).toFinset

def gains (progress latest : OffsetMap) (progressNumber latestNumber : String → Bool)
    (partition : String) : Int :=
  atPartition gain (progress.read progressNumber) (latest.read latestNumber) partition

def mixedLag (progress latest : OffsetMap) (progressNumber latestNumber : String → Bool) : Int64 :=
  Int64.ofInt (∑ partition ∈ latest.partitions,
    gains progress latest progressNumber latestNumber partition)

def ReadAs (offsets : OffsetMap) (raw : String) (asNumber : String → Bool) : Prop :=
  ∀ partition, (parseOffsetMap parse raw).lookup partition = offsets.read asNumber partition

variable {parse} {progress latest : OffsetMap}

private theorem lookup_spelled {offsets : OffsetMap} {raw : String} {members : List (String × Json)}
    (object : IsObject parse raw members) (spelledBy : SpelledBy offsets members)
    (partition : String) :
    (parseOffsetMap parse raw).lookup partition = offsetOf members partition := by
  apply lookup_parseOffsetMap parse object
  intro member held
  rcases spelledBy.spelled member held with ⟨offset, -, spells⟩
  exact readableNumber_of_spells spells

theorem Spelled.readAs {offsets : OffsetMap} {raw : String} (spelled : Spelled parse offsets raw) :
    ∃ asNumber, ReadAs parse offsets raw asNumber := by
  rcases spelled with ⟨members, object, spelledBy⟩
  rcases spelledBy.read with ⟨asNumber, read⟩
  refine ⟨asNumber, fun partition => ?_⟩
  rw [lookup_spelled object spelledBy, read]

theorem readAs_spell {offsets : OffsetMap} {raw : String} {asNumber : String → Bool}
    (object : IsObject parse raw (offsets.spell asNumber)) :
    ReadAs parse offsets raw asNumber := by
  intro partition
  rw [lookup_spelled object (offsets.spelledBy asNumber), offsets.offsetOf_spell]

theorem OffsetMap.read_isSome (offsets : OffsetMap) (asNumber : String → Bool)
    (partition : String) :
    (offsets.read asNumber partition).isSome = (offsets.lookup partition).isSome := by
  rw [OffsetMap.read, Option.isSome_map]

theorem OffsetMap.mem_partitions {offsets : OffsetMap} {partition : String}
    (held : (offsets.lookup partition).isSome) : partition ∈ offsets.partitions := by
  rcases Option.isSome_iff_exists.mp held with ⟨offset, found⟩
  have listed := (lookup_eq_some_iff_mem offsets.distinct partition offset).mp found
  exact List.mem_toFinset.mpr (List.mem_map.mpr ⟨_, listed, rfl⟩)

private theorem common_read_iff (progressNumber latestNumber : String → Bool) :
    Common (progress.read progressNumber) (latest.read latestNumber) ↔
      Common progress.lookup latest.lookup := by
  simp only [Common, OffsetMap.read_isSome]

theorem computeOffsetLag_readAs_eq_none_iff {progressRaw latestRaw : String}
    {progressNumber latestNumber : String → Bool}
    (past : ReadAs parse progress progressRaw progressNumber)
    (current : ReadAs parse latest latestRaw latestNumber) :
    computeOffsetLag parse progressRaw latestRaw = none ↔
      ¬Common progress.lookup latest.lookup := by
  rw [computeOffsetLag_eq_none_iff past current, common_read_iff]

theorem computeOffsetLag_readAs {progressRaw latestRaw : String}
    {progressNumber latestNumber : String → Bool}
    (past : ReadAs parse progress progressRaw progressNumber)
    (current : ReadAs parse latest latestRaw latestNumber)
    (common : Common progress.lookup latest.lookup) :
    computeOffsetLag parse progressRaw latestRaw =
      some (mixedLag progress latest progressNumber latestNumber) := by
  cases computed : computeOffsetLag parse progressRaw latestRaw with
  | none => exact absurd common ((computeOffsetLag_readAs_eq_none_iff past current).mp computed)
  | some lag =>
      have covers (name : String) (held : (latest.read latestNumber name).isSome) :
          name ∈ latest.partitions :=
        OffsetMap.mem_partitions (latest.read_isSome latestNumber name ▸ held)
      exact congrArg some (eq_of_computeOffsetLag past current covers computed)

theorem gains_some {partition : String} {position consumed : Int64}
    (past : progress.lookup partition = some consumed)
    (current : latest.lookup partition = some position)
    (progressNumber latestNumber : String → Bool) :
    gains progress latest progressNumber latestNumber partition =
      gain (reading (latestNumber partition) position)
        (reading (progressNumber partition) consumed) := by
  apply atPartition_some
  · rw [OffsetMap.read, current, Option.map_some]
  · rw [OffsetMap.read, past, Option.map_some]

private theorem gains_congr {partition : String} {progressNumber latestNumber : String → Bool}
    {otherProgress otherLatest : String → Bool}
    (agree : ∀ consumed position, progress.lookup partition = some consumed →
      latest.lookup partition = some position →
      gain (reading (latestNumber partition) position)
          (reading (progressNumber partition) consumed) =
        gain (reading (otherLatest partition) position)
          (reading (otherProgress partition) consumed)) :
    gains progress latest progressNumber latestNumber partition =
      gains progress latest otherProgress otherLatest partition := by
  cases current : latest.lookup partition with
  | none => simp only [gains, atPartition, OffsetMap.read, current, Option.map_none]
  | some position =>
      cases past : progress.lookup partition with
      | none =>
          simp only [gains, atPartition, OffsetMap.read, current, past, Option.map_none,
            Option.map_some]
      | some consumed =>
          rw [gains_some past current, gains_some past current]
          exact agree consumed position past current

private theorem gain_lt (position consumed : Int64) : gain position consumed < 2 ^ 63 :=
  max_lt (by norm_num) (position - consumed).toInt_lt

/-- Changing the spelling in one partition shows what it gains. -/
theorem gain_of_mixedLag {partition : String} {position consumed : Int64}
    (past : progress.lookup partition = some consumed)
    (current : latest.lookup partition = some position)
    {progressNumber latestNumber otherProgress otherLatest : String → Bool}
    (same : mixedLag progress latest progressNumber latestNumber =
      mixedLag progress latest otherProgress otherLatest)
    (elsewhere : ∀ name, name ≠ partition →
      progressNumber name = otherProgress name ∧ latestNumber name = otherLatest name) :
    gain (reading (latestNumber partition) position) (reading (progressNumber partition) consumed) =
      gain (reading (otherLatest partition) position)
        (reading (otherProgress partition) consumed) := by
  have member : partition ∈ latest.partitions :=
    OffsetMap.mem_partitions (by rw [current]; rfl)
  have others : ∑ name ∈ latest.partitions.erase partition,
      gains progress latest progressNumber latestNumber name =
        ∑ name ∈ latest.partitions.erase partition,
          gains progress latest otherProgress otherLatest name := by
    apply Finset.sum_congr rfl
    intro name held
    rcases elsewhere name (Finset.ne_of_mem_erase held) with ⟨progressSame, latestSame⟩
    apply gains_congr
    intro _ _ _ _
    rw [progressSame, latestSame]
  rw [mixedLag, mixedLag, ofInt_eq_ofInt_iff, ← Finset.add_sum_erase _ _ member,
    ← Finset.add_sum_erase _ _ member, others, gains_some past current,
    gains_some past current] at same
  have left := gain_lt (reading (latestNumber partition) position)
    (reading (progressNumber partition) consumed)
  have right := gain_lt (reading (otherLatest partition) position)
    (reading (otherProgress partition) consumed)
  have leftNonneg : 0 ≤ gain (reading (latestNumber partition) position)
    (reading (progressNumber partition) consumed) := le_max_left _ _
  have rightNonneg : 0 ≤ gain (reading (otherLatest partition) position)
    (reading (otherProgress partition) consumed) := le_max_left _ _
  omega

private theorem mixedLag_of_free
    (free : ∀ partition consumed position, progress.lookup partition = some consumed →
      latest.lookup partition = some position → SpellingFree position consumed)
    (progressNumber latestNumber otherProgress otherLatest : String → Bool) :
    mixedLag progress latest progressNumber latestNumber =
      mixedLag progress latest otherProgress otherLatest := by
  rw [mixedLag, mixedLag]
  congr 1
  apply Finset.sum_congr rfl
  intro partition _
  apply gains_congr
  intro consumed position past current
  have agree := (gain_reading_iff position consumed).mpr
    (free partition consumed position past current)
  rw [agree, agree]

theorem SpellingsAgree.mixedLag_eq (agree : SpellingsAgree parse progress latest)
    (progressWritten : ∀ asNumber, ∃ raw, IsObject parse raw (progress.spell asNumber))
    (latestWritten : ∀ asNumber, ∃ raw, IsObject parse raw (latest.spell asNumber))
    (common : Common progress.lookup latest.lookup)
    (progressNumber latestNumber otherProgress otherLatest : String → Bool) :
    mixedLag progress latest progressNumber latestNumber =
      mixedLag progress latest otherProgress otherLatest := by
  rcases progressWritten progressNumber with ⟨progressRaw, past⟩
  rcases latestWritten latestNumber with ⟨latestRaw, current⟩
  rcases progressWritten otherProgress with ⟨otherProgressRaw, otherPast⟩
  rcases latestWritten otherLatest with ⟨otherLatestRaw, otherCurrent⟩
  let order {Entry : Type} : MapOrder Entry := ⟨id, fun entries => .refl entries⟩
  have same := agree ⟨order, order, order⟩ ⟨order, order, order⟩ progressRaw latestRaw
    otherProgressRaw otherLatestRaw
    ⟨_, past, progress.spelledBy _⟩ ⟨_, current, latest.spelledBy _⟩
    ⟨_, otherPast, progress.spelledBy _⟩ ⟨_, otherCurrent, latest.spelledBy _⟩
  rw [computeOffsetLagIn_eq, computeOffsetLagIn_eq,
    computeOffsetLag_readAs (readAs_spell past) (readAs_spell current) common,
    computeOffsetLag_readAs (readAs_spell otherPast) (readAs_spell otherCurrent) common] at same
  exact Option.some.inj same

variable (parse progress latest)

/-- The spelling is irrelevant if every partition's offsets are float64 values, or
nothing is left to consume however they are read. -/
theorem spellings_agree_iff
    (progressWritten : ∀ asNumber, ∃ raw, IsObject parse raw (progress.spell asNumber))
    (latestWritten : ∀ asNumber, ∃ raw, IsObject parse raw (latest.spell asNumber)) :
    SpellingsAgree parse progress latest ↔
      ∀ partition consumed position, progress.lookup partition = some consumed →
        latest.lookup partition = some position → SpellingFree position consumed := by
  constructor
  · intro agree partition consumed position past current
    rw [← gain_reading_iff]
    intro latestNumber progressNumber
    -- One mixture spells the offsets of this partition anew, the other all of them as texts.
    let only (asNumber : Bool) (name : String) : Bool := decide (name = partition) && asNumber
    let text (_ : String) : Bool := false
    have common : Common progress.lookup latest.lookup :=
      ⟨partition, by rw [past]; rfl, by rw [current]; rfl⟩
    have same := agree.mixedLag_eq progressWritten latestWritten common (only progressNumber)
      (only latestNumber) text text
    have elsewhere (name : String) (different : name ≠ partition) :
        only progressNumber name = text name ∧ only latestNumber name = text name := by
      simp [only, text, different]
    have shown := gain_of_mixedLag past current same elsewhere
    simpa [only, text, reading] using shown
  · intro free orders otherOrders progressRaw latestRaw otherProgress otherLatest progressSpelled
      latestSpelled otherProgressSpelled otherLatestSpelled
    rcases progressSpelled.readAs with ⟨_, past⟩
    rcases latestSpelled.readAs with ⟨_, current⟩
    rcases otherProgressSpelled.readAs with ⟨_, otherPast⟩
    rcases otherLatestSpelled.readAs with ⟨_, otherCurrent⟩
    rw [computeOffsetLagIn_eq, computeOffsetLagIn_eq]
    by_cases common : Common progress.lookup latest.lookup
    · rw [computeOffsetLag_readAs past current common,
        computeOffsetLag_readAs otherPast otherCurrent common, mixedLag_of_free free]
    · rw [(computeOffsetLag_readAs_eq_none_iff past current).mpr common,
        (computeOffsetLag_readAs_eq_none_iff otherPast otherCurrent).mpr common]

end Mixtures

theorem spellings_agree_small :
    ∃ (parse : String → Except String Document) (progress latest : OffsetMap),
      progress.entries = [("0", 7)] ∧ latest.entries = [("0", 9)] ∧
      SpellingsAgree parse progress latest := by
  let progress : OffsetMap := ⟨[("0", 7)], by decide⟩
  let latest : OffsetMap := ⟨[("0", 9)], by decide⟩
  let parse : String → Except String Document := fun text =>
    if text = "\x7b\"0\":\"7\"\x7d" then .ok (.object [("0", .string "7")])
    else if text = "\x7b\"0\":7\x7d" then .ok (.object [("0", .number 7 true)])
    else if text = "\x7b\"0\":\"9\"\x7d" then .ok (.object [("0", .string "9")])
    else if text = "\x7b\"0\":9\x7d" then .ok (.object [("0", .number 9 true)])
    else .error "invalid character"
  have exact {offset : Int64} (small : |offset.toInt| < 2 ^ 53) : ExactFloat offset :=
    Float64.nearest_of_representable ⟨offset.toInt, 0, small, by norm_num, by simp⟩
  refine ⟨parse, progress, latest, rfl, rfl,
    (spellings_agree_iff parse progress latest ?_ ?_).mpr ?_⟩
  · intro asNumber
    change ∃ raw, IsObject parse raw (progress.spell fun _ => asNumber "0")
    cases asNumber "0" with
    | false => exact ⟨"\x7b\"0\":\"7\"\x7d", by decide, by decide⟩
    | true => exact ⟨"\x7b\"0\":7\x7d", by decide, by decide⟩
  · intro asNumber
    change ∃ raw, IsObject parse raw (latest.spell fun _ => asNumber "0")
    cases asNumber "0" with
    | false => exact ⟨"\x7b\"0\":\"9\"\x7d", by decide, by decide⟩
    | true => exact ⟨"\x7b\"0\":9\x7d", by decide, by decide⟩
  · intro partition consumed position past current
    have consumedHeld :=
      (lookup_eq_some_iff_mem progress.distinct partition consumed).mp past
    have positionHeld :=
      (lookup_eq_some_iff_mem latest.distinct partition position).mp current
    simp only [progress, latest, List.mem_singleton, Prod.mk.injEq] at consumedHeld positionHeld
    rw [consumedHeld.2, positionHeld.2]
    exact .inl ⟨exact (by decide), exact (by decide)⟩

/-- A position past 2^53 loses a message as a number. -/
theorem spellings_disagree :
    ¬∀ (parse : String → Except String Document) (progress latest : OffsetMap),
      SpellingsAgree parse progress latest := by
  let progress : OffsetMap := ⟨[("0", 0)], by decide⟩
  let latest : OffsetMap := ⟨[("0", 9007199254740993)], by decide⟩
  let progressRaw := "\x7b\"0\":\"0\"\x7d"
  let textRaw := "\x7b\"0\":\"9007199254740993\"\x7d"
  let numberRaw := "\x7b\"0\":9007199254740993\x7d"
  let parse : String → Except String Document := fun text =>
    if text = progressRaw then .ok (.object [("0", .string "0")])
    else if text = textRaw then .ok (.object [("0", .string "9007199254740993")])
    else if text = numberRaw then .ok (.object [("0", .number 9007199254740993 true)])
    else .error "invalid character"
  let order {Entry : Type} : MapOrder Entry := ⟨id, fun entries => .refl entries⟩
  have spelled {offsets : OffsetMap} {raw : String} (asNumber : String → Bool)
      (object : IsObject parse raw (offsets.spell asNumber)) : Spelled parse offsets raw :=
    ⟨_, object, offsets.spelledBy asNumber⟩
  have progressSpelled : Spelled parse progress progressRaw :=
    spelled (fun _ => false) ⟨by decide, by decide⟩
  have textSpelled : Spelled parse latest textRaw :=
    spelled (fun _ => false) ⟨by decide, by decide⟩
  have numberSpelled : Spelled parse latest numberRaw :=
    spelled (fun _ => true) ⟨by decide, by decide⟩
  intro claim
  have same := claim parse progress latest ⟨order, order, order⟩ ⟨order, order, order⟩
    progressRaw textRaw progressRaw numberRaw progressSpelled textSpelled progressSpelled
    numberSpelled
  have exact : computeOffsetLagIn parse ⟨order, order, order⟩ progressRaw textRaw =
      some 9007199254740993 := by
    decide
  have rounded : computeOffsetLagIn parse ⟨order, order, order⟩ progressRaw numberRaw =
      some 9007199254740992 := by
    decide +kernel
  rw [exact, rounded] at same
  exact absurd same (by decide)

end StarLens.Service
