import Disclosure.Proofs.Text.Parts
import Disclosure.Simulation.Config
import Mathlib.Data.List.Forall2
import Mathlib.Data.List.Nodup

/-!
# The list of participants

Participants are enrolled by a text such as `finder:FR,vendor:V`.  What is written
there is said by a grammar: which entries a text has, which participant an entry
stands for and what is wrong with it otherwise.  A text is read as the grammar has
it, up to the first entry that is at fault, and what the simulator writes itself is
read back.
-/

namespace Disclosure

open Text

/-! ## Roles -/

/-- The letter of a role, large or small. -/
def Role.WrittenAs (role : Role) (char : Char) : Prop :=
  char = role.letter ∨ char = role.letter.toLower

namespace Role

theorem eq_or_of_toUpper {char upper : Char} (same : char.toUpper = upper) :
    char = upper ∨ char.val = upper.val + 32 := by
  by_cases small : 'a'.val ≤ char.val ∧ char.val ≤ 'z'.val
  · have moved : char.toUpper = _ := dif_pos small
    right
    rw [← same, moved]
    grind
  · have kept : char.toUpper = char := dif_neg small
    exact .inl (kept.symm.trans same)

theorem toUpper_eq_letter_iff {role : Role} {char : Char} :
    char.toUpper = role.letter ↔ role.WrittenAs char := by
  constructor
  · intro same
    refine (eq_or_of_toUpper same).imp_right fun small => Char.ext ?_
    rw [small]
    cases role <;> decide
  · rintro (rfl | rfl) <;> cases role <;> decide

theorem ofLetter?_eq_some_iff {role : Role} {char : Char} :
    ofLetter? char = some role ↔ role.WrittenAs char := by
  rw [← toUpper_eq_letter_iff, ofLetter?]
  constructor
  · intro found
    have here := List.find?_some found
    exact (beq_iff_eq.mp here).symm
  · intro same
    rw [same]
    cases role <;> rfl

theorem ofLetter?_eq_none_iff {char : Char} :
    ofLetter? char = none ↔ ∀ role : Role, ¬ role.WrittenAs char := by
  simp only [← ofLetter?_eq_some_iff, Option.eq_none_iff_forall_ne_some, ne_eq]

end Role

theorem Role.writtenAs_letter_iff {role asked : Role} :
    asked.WrittenAs role.letter ↔ role = asked := by
  have found : ofLetter? role.letter = some role := by cases role <;> rfl
  rw [← ofLetter?_eq_some_iff, found, Option.some.injEq]

theorem Role.not_writtenAs_dash (role : Role) : ¬ role.WrittenAs '-' :=
  Role.ofLetter?_eq_none_iff.mp rfl role

/-- A single dash, or letters of just these roles, in any order and number; no letter
at all is no role. -/
def Roles.WrittenAs (roles : Roles) (word : List Char) : Prop :=
  word = ['-'] ∧ roles = none ∨
    (∀ char ∈ word, ∃ role : Role, role.WrittenAs char) ∧
      ∀ role, roles.has role = true ↔ ∃ char ∈ word, role.WrittenAs char

/-- The character is the first one of the word that is no letter of a role, and the
word is no single dash. -/
def Roles.FirstStranger (word : List Char) (stranger : Char) : Prop :=
  word ≠ ['-'] ∧ ∃ before after, word = before ++ stranger :: after ∧
    (∀ char ∈ before, ∃ role : Role, role.WrittenAs char) ∧
      ∀ role : Role, ¬ role.WrittenAs stranger

namespace Roles

theorem ext_has {roles others : Roles}
    (same : ∀ role, roles.has role = true ↔ others.has role = true) :
    roles = others := by
  have each := fun role => Bool.eq_iff_iff.mpr (same role)
  rcases roles with ⟨_, _, _, _, _, _⟩
  rcases others with ⟨_, _, _, _, _, _⟩
  rw [mk.injEq]
  exact ⟨each .finder, each .reporter, each .vendor, each .deployer,
    each .coordinator, each .other⟩

theorem readLetters_eq_ok_iff {start roles : Roles} {word : List Char} :
    readLetters start word = .ok roles ↔
      (∀ char ∈ word, ∃ role : Role, role.WrittenAs char) ∧
        ∀ role, roles.has role = true ↔
          start.has role = true ∨ ∃ char ∈ word, role.WrittenAs char := by
  induction word generalizing start with
  | nil =>
    rw [readLetters]
    constructor
    · intro read
      cases read
      simp
    · rintro ⟨_, same⟩
      exact congrArg Except.ok (ext_has fun role => by simp [same role])
  | cons char word ih =>
    rw [readLetters]
    cases found : Role.ofLetter? char with
    | none =>
      have stranger := Role.ofLetter?_eq_none_iff.mp found
      refine ⟨nofun, fun ⟨letters, _⟩ => ?_⟩
      rcases letters char (List.mem_cons_self ..) with ⟨role, written⟩
      exact absurd written (stranger role)
    | some role =>
      have written := Role.ofLetter?_eq_some_iff.mp found
      have only (asked : Role) : asked.WrittenAs char ↔ role = asked := by
        rw [← Role.ofLetter?_eq_some_iff, found, Option.some.injEq]
      rw [ih, List.forall_mem_cons]
      refine and_congr ⟨fun rest => ⟨⟨role, written⟩, rest⟩, And.right⟩ ?_
      refine forall_congr' fun asked => ?_
      simp only [has_insert, Bool.or_eq_true, beq_iff_eq, List.mem_cons,
        exists_eq_or_imp, only]
      rw [or_assoc, or_left_comm]

theorem readLetters_eq_error_iff {start : Roles} {word : List Char}
    {error : ValueError} :
    readLetters start word = .error error ↔
      ∃ before stranger after, word = before ++ stranger :: after ∧
        (∀ char ∈ before, ∃ role : Role, role.WrittenAs char) ∧
        (∀ role : Role, ¬ role.WrittenAs stranger) ∧
        error = .unknownRole stranger := by
  induction word generalizing start with
  | nil =>
    rw [readLetters]
    refine ⟨nofun, ?_⟩
    rintro ⟨before, stranger, after, parts, _⟩
    exact absurd parts.symm (List.append_ne_nil_of_right_ne_nil _ nofun)
  | cons char word ih =>
    rw [readLetters]
    cases found : Role.ofLetter? char with
    | none =>
      have strange := Role.ofLetter?_eq_none_iff.mp found
      constructor
      · intro failed
        cases failed
        exact ⟨[], char, word, rfl, by simp, strange, rfl⟩
      · rintro ⟨before, stranger, after, parts, letters, _, rfl⟩
        cases before with
        | nil =>
          cases parts
          rfl
        | cons first before =>
          cases parts
          rcases letters char (List.mem_cons_self ..) with ⟨role, written⟩
          exact absurd written (strange role)
    | some role =>
      have written := Role.ofLetter?_eq_some_iff.mp found
      rw [ih]
      constructor
      · rintro ⟨before, stranger, after, rfl, letters, strange, same⟩
        refine ⟨char :: before, stranger, after, rfl, ?_, strange, same⟩
        exact List.forall_mem_cons.mpr ⟨⟨role, written⟩, letters⟩
      · rintro ⟨before, stranger, after, parts, letters, strange, same⟩
        cases before with
        | nil =>
          cases parts
          exact absurd written (strange role)
        | cons first before =>
          cases parts
          exact ⟨before, stranger, after, rfl,
            (List.forall_mem_cons.mp letters).2, strange, same⟩

@[simp]
theorem has_none (role : Role) : none.has role = false := by
  cases role <;> rfl

theorem ofChars_eq_ok_iff {roles : Roles} {word : List Char} :
    ofChars word = .ok roles ↔ roles.WrittenAs word := by
  rw [ofChars, WrittenAs]
  split
  next dash =>
    subst dash
    constructor
    · intro read
      cases read
      exact .inl ⟨rfl, rfl⟩
    · rintro (⟨_, rfl⟩ | ⟨letters, _⟩)
      · rfl
      · rcases letters '-' (List.mem_cons_self ..) with ⟨role, written⟩
        exact absurd written role.not_writtenAs_dash
  next noDash =>
    rw [readLetters_eq_ok_iff]
    simp [noDash]

theorem ofChars_eq_error_iff {word : List Char} {error : ValueError} :
    ofChars word = .error error ↔
      ∃ stranger, FirstStranger word stranger ∧ error = .unknownRole stranger := by
  rw [ofChars]
  split
  next dash => exact ⟨nofun, fun ⟨_, ⟨noDash, _⟩, _⟩ => absurd dash noDash⟩
  next noDash =>
    rw [readLetters_eq_error_iff]
    constructor
    · rintro ⟨before, stranger, after, parts, letters, strange, same⟩
      exact ⟨stranger, ⟨noDash, before, after, parts, letters, strange⟩, same⟩
    · rintro ⟨stranger, ⟨_, before, after, parts, letters, strange⟩, same⟩
      exact ⟨before, stranger, after, parts, letters, strange, same⟩

/-- The code of roles is one way to write them. -/
theorem writtenAs_code (roles : Roles) : roles.WrittenAs roles.code.toList := by
  rw [code]
  split
  next empty => exact .inl ⟨rfl, empty⟩
  next =>
    rw [String.toList_ofList]
    refine .inr ⟨?_, fun asked => ?_⟩
    · intro char member
      rcases List.mem_map.mp member with ⟨role, _, rfl⟩
      exact ⟨role, .inl rfl⟩
    · simp [toList, Role.writtenAs_letter_iff, Role.mem_all]

end Roles

/-! ## Entries -/

namespace Enrollment

/-- The entries are the trimmed parts between the commas, without the empty ones. -/
def Lists (text : String) (entries : List (List Char)) : Prop :=
  ∃ parts cores, Splits ',' text.toList parts ∧ List.Forall₂ Trims parts cores ∧
    entries = cores.filter (· ≠ [])

/-- The entry has a name, a colon and roles, and there may be blanks around the name
and around the roles. -/
def WrittenAs (enrollment : Enrollment) (entry : List Char) : Prop :=
  ∃ left right word, entry = left ++ ':' :: right ∧ ':' ∉ left ∧
    Trims left enrollment.name.toList ∧ enrollment.name.toList ≠ [] ∧
    Trims right word ∧ enrollment.roles.WrittenAs word

/-- What is wrong with an entry by itself: it has no colon or no name before the
first one, or else there is a character among the roles that is no role. -/
inductive Fault (entry : List Char) : ConfigError → Prop where
  | noColon (without : ':' ∉ entry) :
    Fault entry (.malformedParticipant (.ofList entry))
  | noName {left right : List Char}
      (parts : entry = left ++ ':' :: right)
      (clean : ':' ∉ left)
      (name : Trims left []) :
    Fault entry (.malformedParticipant (.ofList entry))
  | noRole {left right name word : List Char} {stranger : Char}
      (parts : entry = left ++ ':' :: right)
      (clean : ':' ∉ left)
      (named : Trims left name)
      (some : name ≠ [])
      (trims : Trims right word)
      (strange : Roles.FirstStranger word stranger) :
    Fault entry (.invalidRoles (.ofList name) (.unknownRole stranger))

theorem forall₂_trims_iff {parts cores : List (List Char)} :
    List.Forall₂ Trims parts cores ↔ parts.map trimChars = cores := by
  rw [← List.forall₂_eq_eq_eq, List.forall₂_map_left_iff]
  simp only [trimChars_eq_iff]

theorem entries_eq_iff {text : String} {listed : List (List Char)} :
    entries text = listed ↔ Lists text listed := by
  have same : entries text =
      ((splitChars ',' text.toList).map trimChars).filter (· ≠ []) := by
    refine List.filter_congr fun entry _ => ?_
    cases entry <;> rfl
  rw [same]
  constructor
  · rintro rfl
    exact ⟨_, _, splitChars_eq_iff.mp rfl, forall₂_trims_iff.mpr rfl, rfl⟩
  · rintro ⟨parts, cores, splits, trims, rfl⟩
    rw [splitChars_eq_iff.mpr splits, forall₂_trims_iff.mp trims]

/-- How an entry with a colon is read. -/
theorem ofEntry_of_colon {entry left right name word : List Char}
    (parts : entry = left ++ ':' :: right) (clean : ':' ∉ left)
    (named : Trims left name) (trims : Trims right word) :
    ofEntry entry =
      if name = [] then .error (.malformedParticipant (.ofList entry))
      else
        match Roles.ofChars word with
        | .error cause => .error (.invalidRoles (.ofList name) cause)
        | .ok roles => .ok ⟨.ofList name, roles⟩ := by
  rw [ofEntry, cutChars_eq_some_iff.mpr ⟨parts, clean⟩]
  simp only [trimChars_eq_iff.mpr named, trimChars_eq_iff.mpr trims]
  cases name with
  | nil => rfl
  | cons char name => rfl

theorem ofEntry_of_noColon {entry : List Char} (without : ':' ∉ entry) :
    ofEntry entry = .error (.malformedParticipant (.ofList entry)) := by
  rw [ofEntry, cutChars_eq_none_iff.mpr without]

/-- An entry with a colon has a first one. -/
theorem exists_parts {entry : List Char} (colon : ':' ∈ entry) :
    ∃ left right name word, entry = left ++ ':' :: right ∧ ':' ∉ left ∧
      Trims left name ∧ Trims right word := by
  cases cut : cutChars ':' entry with
  | none => exact absurd colon (cutChars_eq_none_iff.mp cut)
  | some sides =>
    rcases sides with ⟨left, right⟩
    have ⟨parts, clean⟩ := cutChars_eq_some_iff.mp cut
    exact ⟨left, right, _, _, parts, clean, trims_trimChars left,
      trims_trimChars right⟩

/-- What an entry is read as, and what is wrong with it otherwise. -/
theorem ofEntry_spec (entry : List Char) :
    (∃ enrollment : Enrollment, ofEntry entry = .ok enrollment ∧
      enrollment.WrittenAs entry) ∨
    ∃ error, ofEntry entry = .error error ∧ Fault entry error := by
  by_cases colon : ':' ∈ entry
  · rcases exists_parts colon with
      ⟨left, right, name, word, parts, clean, named, trims⟩
    rw [ofEntry_of_colon parts clean named trims]
    by_cases empty : name = []
    · subst empty
      exact .inr ⟨_, rfl, .noName parts clean named⟩
    · rw [if_neg empty]
      cases read : Roles.ofChars word with
      | ok roles =>
        refine .inl ⟨_, rfl, left, right, word, parts, clean, ?_, ?_, trims,
          Roles.ofChars_eq_ok_iff.mp read⟩
        · rw [String.toList_ofList]
          exact named
        · rw [String.toList_ofList]
          exact empty
      | error cause =>
        rcases Roles.ofChars_eq_error_iff.mp read with ⟨stranger, strange, rfl⟩
        exact .inr ⟨_, rfl, .noRole parts clean named empty trims strange⟩
  · exact .inr ⟨_, ofEntry_of_noColon colon, .noColon colon⟩

theorem ofEntry_eq_ok_iff {entry : List Char} {enrollment : Enrollment} :
    ofEntry entry = .ok enrollment ↔ enrollment.WrittenAs entry := by
  constructor
  · intro read
    rcases ofEntry_spec entry with ⟨other, readToo, written⟩ | ⟨_, failed, _⟩
    · cases read.symm.trans readToo
      exact written
    · cases read.symm.trans failed
  · rintro ⟨left, right, word, parts, clean, named, some, trims, written⟩
    rw [ofEntry_of_colon parts clean named trims, if_neg some,
      Roles.ofChars_eq_ok_iff.mpr written]
    simp

theorem ofEntry_eq_error_iff {entry : List Char} {error : ConfigError} :
    ofEntry entry = .error error ↔ Fault entry error := by
  constructor
  · intro failed
    rcases ofEntry_spec entry with ⟨_, read, _⟩ | ⟨other, failedToo, fault⟩
    · cases failed.symm.trans read
    · cases failed.symm.trans failedToo
      exact fault
  · intro fault
    cases fault with
    | noColon without => exact ofEntry_of_noColon without
    | @noName left right parts clean name =>
      rw [ofEntry_of_colon parts clean name (trims_trimChars right), if_pos rfl]
    | noRole parts clean named some trims strange =>
      rw [ofEntry_of_colon parts clean named trims, if_neg some,
        Roles.ofChars_eq_error_iff.mpr ⟨_, strange, rfl⟩]

/-! ## Lists of participants -/

/-- The names of participants, in their order. -/
def names (enrollments : List Enrollment) : List String := enrollments.map name

/-- The entries stand for these participants, one after the other. -/
def WrittenAll (enrollments : List Enrollment) (entries : List (List Char)) : Prop :=
  List.Forall₂ WrittenAs enrollments entries

/-- The entry cannot be enrolled where these names are taken already. -/
inductive Offends (taken : List String) (entry : List Char) :
    ConfigError → Prop where
  | fault {error : ConfigError} (fault : Fault entry error) :
    Offends taken entry error
  | duplicate {enrollment : Enrollment}
      (written : enrollment.WrittenAs entry)
      (again : enrollment.name ∈ taken) :
    Offends taken entry (.duplicateParticipant enrollment.name)

/-- There is a first entry that cannot be enrolled after those before it, which can.
The participants that were read already come before them all. -/
def FirstOffence (read : List Enrollment) (listed : List (List Char))
    (error : ConfigError) : Prop :=
  ∃ before entry after earlier, listed = before ++ entry :: after ∧
    WrittenAll earlier before ∧ (names (read ++ earlier)).Nodup ∧
    Offends (names (read ++ earlier)) entry error

section Reading

variable {read later : List Enrollment} {enrollment : Enrollment}
  {entry : List Char} {listed : List (List Char)} {error : ConfigError}

theorem any_name_iff {name : String} :
    (read.any fun other => other.name == name) = true ↔ name ∈ names read := by
  simp [names]

theorem readEntries_cons_of_written (written : enrollment.WrittenAs entry)
    (fresh : enrollment.name ∉ names read) :
    readEntries read (entry :: listed) =
      readEntries (read ++ [enrollment]) listed := by
  rw [readEntries, ofEntry_eq_ok_iff.mpr written]
  exact if_neg (any_name_iff.not.mpr fresh)

theorem readEntries_cons_of_offends (offends : Offends (names read) entry error) :
    readEntries read (entry :: listed) = .error error := by
  rw [readEntries]
  cases offends with
  | fault fault => rw [ofEntry_eq_error_iff.mpr fault]
  | duplicate written again =>
    rw [ofEntry_eq_ok_iff.mpr written]
    exact if_pos (any_name_iff.mpr again)

/-- A name that comes after others of a list without duplicates is none of them. -/
theorem fresh_of_nodup (distinct : (names (read ++ enrollment :: later)).Nodup) :
    enrollment.name ∉ names read := by
  rw [names, List.map_append, List.map_cons] at distinct
  exact fun among =>
    List.disjoint_of_nodup_append distinct among (List.mem_cons_self ..)

/-- What is written well is enrolled, and the rest is read after it. -/
theorem readEntries_append {before : List (List Char)}
    (written : WrittenAll later before)
    (distinct : (names (read ++ later)).Nodup) :
    readEntries read (before ++ listed) = readEntries (read ++ later) listed := by
  induction written generalizing read with
  | nil => rw [List.append_nil, List.nil_append]
  | @cons enrollment entry later before here rest ih =>
    rw [List.cons_append, readEntries_cons_of_written here (fresh_of_nodup distinct),
      List.append_cons read enrollment later]
    exact ih (by rwa [← List.append_cons])

/-- All entries are enrolled, or there is a first one that cannot be. -/
theorem readEntries_spec (read : List Enrollment) (listed : List (List Char))
    (distinct : (names read).Nodup) :
    (∃ later, readEntries read listed = .ok (read ++ later) ∧
      WrittenAll later listed ∧ (names (read ++ later)).Nodup) ∨
    ∃ error, readEntries read listed = .error error ∧
      FirstOffence read listed error := by
  -- the participant of the next entry moves over to those that were read already
  induction listed generalizing read with
  | nil =>
    refine .inl ⟨[], ?_, .nil, ?_⟩
    · rw [List.append_nil, readEntries]
    · rwa [List.append_nil]
  | cons entry listed ih =>
    have offended {error : ConfigError}
        (offends : Offends (names read) entry error) :
        FirstOffence read (entry :: listed) error := by
      rw [← List.append_nil read] at distinct offends
      exact ⟨[], entry, listed, [], rfl, .nil, distinct, offends⟩
    rcases ofEntry_spec entry with ⟨enrollment, _, written⟩ | ⟨error, _, fault⟩
    · by_cases taken : enrollment.name ∈ names read
      · have offends := Offends.duplicate written taken
        exact .inr ⟨_, readEntries_cons_of_offends offends, offended offends⟩
      · rw [readEntries_cons_of_written written taken]
        have distinctToo : (names (read ++ [enrollment])).Nodup := by
          rw [names, List.map_append, List.map_singleton, ← List.concat_eq_append]
          exact distinct.concat taken
        rcases ih _ distinctToo with
          ⟨later, ends, each, all⟩ |
          ⟨error, failed, before, other, after, earlier, rfl, each, all, offends⟩
        · rw [← List.append_cons] at ends all
          exact .inl ⟨enrollment :: later, ends, .cons written each, all⟩
        · rw [← List.append_cons] at all offends
          exact .inr ⟨error, failed, entry :: before, other, after,
            enrollment :: earlier, rfl, .cons written each, all, offends⟩
    · have offends : Offends (names read) entry error := .fault fault
      exact .inr ⟨error, readEntries_cons_of_offends offends, offended offends⟩

end Reading

/-- Exactly the texts of the grammar are read, and as it has them. -/
theorem parseList_eq_ok_iff {text : String} {list : List Enrollment} :
    parseList text = .ok list ↔
      ∃ listed, Lists text listed ∧ WrittenAll list listed ∧ (names list).Nodup := by
  constructor
  · intro read
    refine ⟨_, entries_eq_iff.mp rfl, ?_⟩
    rcases readEntries_spec [] (entries text) List.nodup_nil with
      ⟨later, ends, each, all⟩ | ⟨error, failed, _⟩
    · cases read.symm.trans ends
      exact ⟨each, all⟩
    · cases read.symm.trans failed
  · rintro ⟨listed, lists, each, all⟩
    have ends : readEntries [] (listed ++ []) = readEntries ([] ++ list) [] :=
      readEntries_append each all
    rw [List.append_nil] at ends
    rw [parseList, entries_eq_iff.mpr lists, ends]
    rfl

theorem parseList_eq_error_iff {text : String} {error : ConfigError} :
    parseList text = .error error ↔
      ∃ listed, Lists text listed ∧ FirstOffence [] listed error := by
  constructor
  · intro failed
    refine ⟨_, entries_eq_iff.mp rfl, ?_⟩
    rcases readEntries_spec [] (entries text) List.nodup_nil with
      ⟨later, ends, _⟩ | ⟨other, failedToo, offence⟩
    · cases failed.symm.trans ends
    · cases failed.symm.trans failedToo
      exact offence
  · rintro ⟨_, lists, before, entry, after, earlier, rfl, each, all, offends⟩
    rw [parseList, entries_eq_iff.mpr lists, readEntries_append each all]
    exact readEntries_cons_of_offends offends

end Enrollment

/-! ## Reading what was written -/

/-- There is something in the name, no blank around it and neither comma nor colon
in it. -/
structure Enrollment.Plain (name : String) : Prop where
  some : name.toList ≠ []
  trimmed : Trimmed name.toList
  noComma : ',' ∉ name.toList
  noColon : ':' ∉ name.toList

namespace Roles

theorem mem_code {roles : Roles} {char : Char} (among : char ∈ roles.code.toList) :
    char = '-' ∨ ∃ role : Role, char = role.letter := by
  rw [code] at among
  split at among
  · exact .inl (List.mem_singleton.mp among)
  · rw [String.toList_ofList] at among
    rcases List.mem_map.mp among with ⟨role, _, rfl⟩
    exact .inr ⟨role, rfl⟩

theorem isBlank_of_mem_code {roles : Roles} {char : Char}
    (among : char ∈ roles.code.toList) : isBlank char = false := by
  rcases mem_code among with rfl | ⟨role, rfl⟩
  · decide
  · cases role <;> decide

theorem comma_not_mem_code (roles : Roles) : ',' ∉ roles.code.toList := by
  intro among
  rcases mem_code among with same | ⟨role, same⟩
  · cases same
  · cases role <;> cases same

end Roles

namespace Enrollment

variable {enrollment : Enrollment}

theorem toList_code (enrollment : Enrollment) :
    enrollment.code.toList =
      enrollment.name.toList ++ ':' :: enrollment.roles.code.toList := by
  rw [code, String.toList_append, String.toList_append, List.append_assoc]
  rfl

theorem trimmed_code (plain : Plain enrollment.name) :
    Trimmed enrollment.code.toList := by
  rw [toList_code]
  constructor
  · rw [List.head?_append_of_ne_nil _ plain.some]
    exact plain.trimmed.first
  · intro char found
    rw [List.getLast?_append_cons] at found
    rcases List.mem_cons.mp (List.mem_of_getLast? found) with rfl | among
    · decide
    · exact Roles.isBlank_of_mem_code among

theorem comma_not_mem_code (plain : Plain enrollment.name) :
    ',' ∉ enrollment.code.toList := by
  rw [toList_code]
  simp [plain.noComma, Roles.comma_not_mem_code]

/-- The code of a participant with a plain name is one way to write it. -/
theorem writtenAs_code (plain : Plain enrollment.name) :
    enrollment.WrittenAs enrollment.code.toList := by
  have trimmed : Trimmed enrollment.roles.code.toList :=
    .of_all (by simpa using fun _ => Roles.isBlank_of_mem_code)
  exact ⟨_, _, _, toList_code enrollment, plain.noColon, plain.trimmed.trims,
    plain.some, trimmed.trims, Roles.writtenAs_code _⟩

theorem splits_listCode {list : List Enrollment} (some : list ≠ [])
    (plain : ∀ enrollment ∈ list, Plain enrollment.name) :
    Splits ',' (listCode list).toList
      (list.map fun enrollment => enrollment.code.toList) where
  some := by simpa using some
  clean := by
    intro part among
    rcases List.mem_map.mp among with ⟨enrollment, member, rfl⟩
    exact comma_not_mem_code (plain enrollment member)
  joined := by
    rw [listCode, String.toList_intercalate, List.map_map]
    rfl

/-- The entries of the code of a list are the codes of the participants. -/
theorem lists_listCode {list : List Enrollment}
    (plain : ∀ enrollment ∈ list, Plain enrollment.name) :
    Lists (listCode list) (list.map fun enrollment => enrollment.code.toList) := by
  cases list with
  | nil =>
    -- the empty text has one part, but no entry
    have splits : Splits ',' [] [[]] := ⟨by simp, by simp, rfl⟩
    have trims : Trims [] [] := Trimmed.trims ⟨by simp, by simp⟩
    exact ⟨[[]], [[]], splits, .cons trims .nil, rfl⟩
  | cons first rest =>
    refine ⟨_, _, splits_listCode (List.cons_ne_nil _ _) plain,
      List.forall₂_same.mpr ?_, ?_⟩
    · intro part among
      rcases List.mem_map.mp among with ⟨enrollment, member, rfl⟩
      exact (trimmed_code (plain enrollment member)).trims
    · symm
      rw [List.filter_eq_self]
      intro part among
      rcases List.mem_map.mp among with ⟨enrollment, member, rfl⟩
      simp [toList_code]

theorem parseList_listCode {list : List Enrollment}
    (plain : ∀ enrollment ∈ list, Plain enrollment.name)
    (distinct : (names list).Nodup) :
    parseList (listCode list) = .ok list := by
  refine parseList_eq_ok_iff.mpr ⟨_, lists_listCode plain, ?_, distinct⟩
  rw [WrittenAll, List.forall₂_map_right_iff, List.forall₂_same]
  exact fun enrollment among => writtenAs_code (plain enrollment among)

end Enrollment

/--
A list of participants is read as its grammar has it.  A text is read if and only if
each of its entries has a name, a colon and roles and no name comes twice; what comes
of it are the participants that the entries stand for, in their order.  Otherwise the
error is that of the first entry that is at fault, a missing colon or name before a
wrong letter, and that before a name that is taken.  What is written down for
participants with plain and distinct names is read back.
-/
theorem participants_are_read_by_grammar :
    (∀ (text : String) (list : List Enrollment),
      Enrollment.parseList text = .ok list ↔
        ∃ listed, Enrollment.Lists text listed ∧
          Enrollment.WrittenAll list listed ∧ (Enrollment.names list).Nodup) ∧
    (∀ (text : String) (error : ConfigError),
      Enrollment.parseList text = .error error ↔
        ∃ listed, Enrollment.Lists text listed ∧
          Enrollment.FirstOffence [] listed error) ∧
    ∀ list : List Enrollment,
      (∀ enrollment ∈ list, Enrollment.Plain enrollment.name) →
      (Enrollment.names list).Nodup →
        Enrollment.parseList (Enrollment.listCode list) = .ok list :=
  ⟨fun _ _ => Enrollment.parseList_eq_ok_iff,
    fun _ _ => Enrollment.parseList_eq_error_iff,
    fun _ => Enrollment.parseList_listCode⟩

/-- The participants of a case by default are written as their text and read back. -/
theorem participants_are_read_by_grammar_of_default :
    (∀ enrollment ∈ Config.defaultParticipants, Enrollment.Plain enrollment.name) ∧
      (Enrollment.names Config.defaultParticipants).Nodup ∧
      Enrollment.listCode Config.defaultParticipants =
        "finder:FR,vendor:V,coordinator:C" ∧
      Enrollment.parseList "finder:FR,vendor:V,coordinator:C" =
        .ok Config.defaultParticipants := by
  have plain : ∀ enrollment ∈ Config.defaultParticipants,
      Enrollment.Plain enrollment.name := by
    intro enrollment among
    simp only [Config.defaultParticipants, List.mem_cons, List.not_mem_nil,
      or_false] at among
    rcases among with rfl | rfl | rfl <;>
      exact ⟨by decide, .of_all rfl, by decide, by decide⟩
  have distinct : (Enrollment.names Config.defaultParticipants).Nodup := by decide
  have code : Enrollment.listCode Config.defaultParticipants =
      "finder:FR,vendor:V,coordinator:C" := by
    decide +kernel
  exact ⟨plain, distinct, code,
    code ▸ participants_are_read_by_grammar.2.2 _ plain distinct⟩

end Disclosure
