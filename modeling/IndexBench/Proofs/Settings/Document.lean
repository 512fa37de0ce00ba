import IndexBench.Proofs.Readings
import IndexBench.Settings

/-!
# What a document says of the settings

Each setting has a slot of its own in a document: a section, and there a name, or a place if the
section is an array.  A document is read as settings exactly if it says them slot by slot, so no
setting is read from the slot of another, and one that is left open stays open.

Main definitions:

- `Settings.Slot` is where a setting stands, `Settings.Slot.Holds` says what stands there.
- `Settings.Says` says which settings a document gives.

Main results:

- Theorem `Settings.sectionOf_eq_ok_iff`: a section is read slot by slot.
- Theorem `Settings.read_eq_ok_iff`: a text is read as the settings that its document says.
-/

namespace IndexBench
namespace Settings

open Toml (Value Entries)

/-! ## Slots -/

/-- Where a setting stands in a document: its section, how many settings this section has, which
of them it is, and its name. -/
structure Slot where
  heading : String
  size : Nat
  index : Nat
  name : String

/-- What stands in a slot, by the value of its section. -/
inductive Slot.Holds (slot : Slot) : Option Value → Option Value → Prop where
  /-- A section that is missing leaves its settings open. -/
  | missing : Holds slot none none
  /-- A table is asked by name. -/
  | table {origin : Toml.Origin} {entries : Entries} :
      Holds slot (some (.table origin entries)) (entries.lookup slot.name)
  /-- An array has all the settings of the section, in their order. -/
  | array {items : List Value} (hsize : slot.size ≤ items.length) :
      Holds slot (some (.array items)) items[slot.index]?
  /-- So has an array of tables. -/
  | tables {items : List Entries} (hsize : slot.size ≤ items.length) :
      Holds slot (some (.tables items)) (items.reverse[slot.index]?.map (.table .header))
  /-- A date has no settings. -/
  | datetime : Holds slot (some .datetime) none

/-- A slot holds one thing at most. -/
theorem Slot.Holds.unique {slot : Slot} {section? held other : Option Value}
    (h : slot.Holds section? held) (hother : slot.Holds section? other) : held = other := by
  cases h <;> cases hother <;> rfl

/-- The slots of a section, by the names of its settings. -/
def slots (heading : String) (names : List String) : List Slot :=
  names.mapIdx fun index name => ⟨heading, names.length, index, name⟩

/-! ## Sections -/

section Section

variable {entries : Entries} {heading : String} {names : List String}

/-- Values that go by the names of the settings stand in the slots. -/
theorem forall₂_slots_map {section? : Option Value} (f : String → Option Value)
    (h : ∀ slot : Slot, slot.Holds section? (f slot.name)) :
    List.Forall₂ (fun slot value => slot.Holds section? value) (slots heading names)
      (names.map f) := by
  rw [List.forall₂_iff_get]
  refine ⟨by simp [slots], ?_⟩
  intro i hslot hvalue
  have hi : i < names.length := by simpa using hvalue
  simpa [slots] using h ⟨heading, names.length, i, names[i]⟩

/-- Values that go by the places of the settings stand in the slots, if there are enough. -/
theorem forall₂_slots_take {α : Type} {section? : Option Value} {items : List α} (f : α → Value)
    (hsize : names.length ≤ items.length)
    (h : ∀ slot : Slot, slot.size = names.length →
      slot.Holds section? (items[slot.index]?.map f)) :
    List.Forall₂ (fun slot value => slot.Holds section? value) (slots heading names)
      ((items.take names.length).map fun item => some (f item)) := by
  rw [List.forall₂_iff_get]
  refine ⟨by simp [slots, hsize], ?_⟩
  intro i hslot hvalue
  have hi : i < names.length := by simpa [slots] using hslot
  have hitem : i < items.length := by omega
  simpa [slots, hitem] using h ⟨heading, names.length, i, names[i]⟩ rfl

/-- What is read of a section stands in its slots. -/
theorem holds_of_sectionOf {values : List (Option Value)}
    (h : sectionOf entries heading names = .ok values) :
    List.Forall₂ (fun slot value => slot.Holds (entries.lookup heading) value)
      (slots heading names) values := by
  unfold sectionOf at h
  split at h
  · rename_i hsection
    cases h
    rw [hsection]
    exact forall₂_slots_map _ fun slot => .missing
  · rename_i value hsection
    rw [hsection]
    unfold sectionValues at h
    split at h
    · cases h
      exact forall₂_slots_map _ fun slot => .table
    · split at h
      · rename_i hsize
        cases h
        refine forall₂_slots_take id hsize fun slot hslot => ?_
        rw [Option.map_id_fun, id]
        exact .array (by omega)
      · cases h
    · rename_i items
      split at h
      · rename_i hsize
        cases h
        refine forall₂_slots_take _ (by simpa using hsize) fun slot hslot => ?_
        exact .tables (by omega)
      · cases h
    · cases h
      exact forall₂_slots_map _ fun slot => .datetime
    · cases h

/-- A section of which a slot holds something is read. -/
theorem exists_sectionOf {slot : Slot} {value : Option Value} (hsize : slot.size = names.length)
    (h : slot.Holds (entries.lookup heading) value) :
    ∃ values, sectionOf entries heading names = .ok values := by
  unfold sectionOf
  generalize entries.lookup heading = section? at h
  cases h with
  | missing => exact ⟨_, rfl⟩
  | table => exact ⟨_, rfl⟩
  | array hitems => exact ⟨_, if_pos (hsize ▸ hitems)⟩
  | tables hitems => exact ⟨_, if_pos (hsize ▸ hitems)⟩
  | datetime => exact ⟨_, rfl⟩

/-- A section is read slot by slot. -/
theorem sectionOf_eq_ok_iff (hnames : names ≠ []) {values : List (Option Value)} :
    sectionOf entries heading names = .ok values ↔
      List.Forall₂ (fun slot value => slot.Holds (entries.lookup heading) value)
        (slots heading names) values := by
  refine ⟨holds_of_sectionOf, fun h => ?_⟩
  obtain ⟨first, others, rfl⟩ := List.exists_cons_of_ne_nil hnames
  -- what the first slot holds shows that the section has a form that is read
  obtain ⟨found, hfound⟩ : ∃ found, sectionOf entries heading (first :: others) = .ok found := by
    rw [slots, List.mapIdx_cons] at h
    obtain ⟨value, later, hfirst, -, -⟩ := List.forall₂_cons_left_iff.mp h
    exact exists_sectionOf rfl hfirst
  have hunique : Relator.RightUnique fun (slot : Slot) (value : Option Value) =>
      slot.Holds (entries.lookup heading) value := fun _ _ _ hheld hother => hheld.unique hother
  rw [hfound, List.right_unique_forall₂' hunique h (holds_of_sectionOf hfound)]

end Section

/-! ## Values -/

/-- Whether a value is a text. -/
def IsText (value : Value) (text : String) : Prop :=
  value = .string text

/-- Whether a value is a number, which is not negative. -/
def IsCount (value : Value) (n : Nat) : Prop :=
  ∃ number : Int64, value = .integer number ∧ number.toInt = n

/-- Whether a value is a shape: its name, or a table with an empty entry of that name alone. -/
def IsShape (value : Value) (shape : QueryShape) : Prop :=
  value = .string shape.tag ∨
    ∃ origin entry, value = .table origin [(shape.tag, entry)] ∧ isEmpty entry = true

/-- Whether a value is a truth value. -/
def IsFlag (value : Value) (b : Bool) : Prop :=
  value = .boolean b

/-- A text is read as it is. -/
theorem readText_eq_ok_iff {value : Value} {text : String} :
    readText value = .ok text ↔ IsText value text := by
  cases value <;> simp [readText, misshapen, IsText]

/-- A number is read as it is, if it is not negative. -/
theorem readCount_eq_ok_iff {value : Value} {n : Nat} :
    readCount value = .ok n ↔ IsCount value n := by
  cases value with
  | integer number =>
      have hsign : 0 ≤ number ↔ 0 ≤ number.toInt := Int64.le_iff_toInt_le
      simp only [readCount, IsCount, Value.integer.injEq, exists_eq_left', hsign]
      constructor
      · intro h
        split at h
        · rename_i hpos
          have hvalue : number.toInt.toNat = n := Except.ok.inj h
          omega
        · cases h
      · intro hvalue
        rw [hvalue, if_pos (Int.natCast_nonneg n), Int.toNat_natCast]
  | _ => simp [readCount, misshapen, IsCount]

/-- A name is read as the shape of that name. -/
theorem readTag_eq_ok_iff {tag : String} {shape : QueryShape} :
    readTag tag = .ok shape ↔ tag = shape.tag := by
  constructor
  · intro h
    by_cases hcount : tag = "count"
    · subst hcount
      cases h
      rfl
    · by_cases henumerate : tag = "enumerate"
      · subst henumerate
        cases h
        rfl
      · simp [readTag, QueryShape.ofTag?, hcount, henumerate, misshapen] at h
  · rintro rfl
    rw [readTag, QueryShape.ofTag?_tag]

/-- A shape is read in both of its forms. -/
theorem readShape_eq_ok_iff {value : Value} {shape : QueryShape} :
    readShape value = .ok shape ↔ IsShape value shape := by
  unfold readShape
  split
  · simp [readTag_eq_ok_iff, IsShape]
  · rename_i origin tag entry
    simp only [bind_eq_ok_iff, readTag_eq_ok_iff]
    constructor
    · rintro ⟨named, rfl, h⟩
      split at h
      · rename_i hempty
        cases h
        exact .inr ⟨origin, entry, rfl, hempty⟩
      · cases h
    · rintro (h | ⟨_, _, h, hempty⟩)
      · cases h
      · cases h
        exact ⟨shape, rfl, if_pos hempty⟩
  · rename_i hstring htable
    constructor
    · intro h
      cases h
    · rintro (h | ⟨origin, entry, h, -⟩)
      · exact absurd h (hstring _)
      · exact absurd h (htable _ _ _)

/-- A truth value is read as it is. -/
theorem readFlag_eq_ok_iff {value : Value} {b : Bool} :
    readFlag value = .ok b ↔ IsFlag value b := by
  cases value <;> simp [readFlag, misshapen, IsFlag]

/-- A setting is left open exactly if nothing stands for it, and else read by its reader. -/
theorem optional_eq_ok_iff {α : Type} {reader : Value → Except DocumentFault α}
    {Is : Value → α → Prop} (hreader : ∀ {value x}, reader value = .ok x ↔ Is value x)
    {value? : Option Value} {given : Option α} :
    optional reader value? = .ok given ↔ Option.Rel Is value? given := by
  cases value? with
  | none =>
      rw [optional, Except.ok.injEq]
      constructor
      · rintro rfl
        exact .none
      · rintro ⟨⟩
        rfl
  | some value =>
      rw [optional]
      constructor
      · intro h
        cases hread : reader value with
        | error fault =>
            rw [hread] at h
            cases h
        | ok x =>
            rw [hread] at h
            cases h
            exact .some (hreader.mp hread)
      · rintro ⟨hx⟩
        rw [hreader.mpr hx]
        rfl

/-! ## Documents -/

/-- Whether a document gives a setting that stands in a slot, or leaves it open. -/
def Slot.Gives {α : Type} (slot : Slot) (entries : Entries) (Is : Value → α → Prop)
    (given : Option α) : Prop :=
  ∃ value?, slot.Holds (entries.lookup slot.heading) value? ∧ Option.Rel Is value? given

/-- Whether a document says settings: each of them in a slot of its own. -/
structure Says (entries : Entries) (settings : Settings) : Prop where
  url : Slot.Gives ⟨"database", 1, 0, "url"⟩ entries IsText settings.url
  repetitions : Slot.Gives ⟨"run", 3, 0, "repetitions"⟩ entries IsCount settings.repetitions
  shape : Slot.Gives ⟨"run", 3, 1, "executor"⟩ entries IsShape settings.shape
  warmup : Slot.Gives ⟨"run", 3, 2, "warmup"⟩ entries IsFlag settings.warmup

/-- A document is read as the settings that it says. -/
theorem ofEntries_eq_ok_iff {entries : Entries} {settings : Settings} :
    ofEntries entries = .ok settings ↔ Says entries settings := by
  -- the slots of both sections, one by one
  have hdatabase {url : Option Value} : sectionOf entries "database" ["url"] = .ok [url] ↔
      Slot.Holds ⟨"database", 1, 0, "url"⟩ (entries.lookup "database") url := by
    rw [sectionOf_eq_ok_iff (List.cons_ne_nil _ _)]
    simp [slots]
  have hrun {repetitions shape warmup : Option Value} :
      sectionOf entries "run" ["repetitions", "executor", "warmup"] =
          .ok [repetitions, shape, warmup] ↔
        Slot.Holds ⟨"run", 3, 0, "repetitions"⟩ (entries.lookup "run") repetitions ∧
        Slot.Holds ⟨"run", 3, 1, "executor"⟩ (entries.lookup "run") shape ∧
        Slot.Holds ⟨"run", 3, 2, "warmup"⟩ (entries.lookup "run") warmup := by
    rw [sectionOf_eq_ok_iff (List.cons_ne_nil _ _)]
    simp [slots]
  constructor
  · intro h
    simp only [ofEntries, bind_eq_ok_iff] at h
    obtain ⟨database, hfirst, run, hsecond, h⟩ := h
    split at h
    · rename_i url repetitions shape warmup
      simp only [bind_eq_ok_iff] at h
      obtain ⟨givenUrl, hurl, givenRepetitions, hrepetitions, givenShape, hshape, givenWarmup,
        hwarmup, ⟨⟩⟩ := h
      obtain ⟨hasRepetitions, hasShape, hasWarmup⟩ := hrun.mp hsecond
      exact
        { url := ⟨url, hdatabase.mp hfirst, (optional_eq_ok_iff readText_eq_ok_iff).mp hurl⟩
          repetitions :=
            ⟨repetitions, hasRepetitions, (optional_eq_ok_iff readCount_eq_ok_iff).mp hrepetitions⟩
          shape := ⟨shape, hasShape, (optional_eq_ok_iff readShape_eq_ok_iff).mp hshape⟩
          warmup := ⟨warmup, hasWarmup, (optional_eq_ok_iff readFlag_eq_ok_iff).mp hwarmup⟩ }
    · cases h
  · rintro ⟨⟨url, hurl, hasUrl⟩, ⟨repetitions, hrepetitions, hasRepetitions⟩,
      ⟨shape, hshape, hasShape⟩, ⟨warmup, hwarmup, hasWarmup⟩⟩
    simp only [ofEntries, bind_eq_ok_iff]
    refine ⟨_, hdatabase.mpr hurl, _, hrun.mpr ⟨hrepetitions, hshape, hwarmup⟩, ?_⟩
    dsimp only
    rw [(optional_eq_ok_iff readText_eq_ok_iff).mpr hasUrl,
      (optional_eq_ok_iff readCount_eq_ok_iff).mpr hasRepetitions,
      (optional_eq_ok_iff readShape_eq_ok_iff).mpr hasShape,
      (optional_eq_ok_iff readFlag_eq_ok_iff).mpr hasWarmup]
    rfl

/-- A text is read as the settings that its document says. -/
theorem read_eq_ok_iff {text : String} {settings : Settings} :
    read text = .ok settings ↔
      ∃ entries, Toml.parse text = .ok entries ∧ Says entries settings := by
  simp only [read, bind_eq_ok_iff, ofEntries_eq_ok_iff]

example : read "run = [3, \"count\", true, 0]\n" = .ok ⟨none, some 3, some .count, some true⟩ := by
  decide +kernel

end Settings
end IndexBench
