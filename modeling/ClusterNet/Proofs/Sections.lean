import Mathlib.Data.List.Basic
import ClusterNet.Ini
import ClusterNet.Proofs.Separators

/- Configuration files read back line by line. Values are written as they are, so the text behind a
   line break in one stands as lines of its own. A file sets what its sections set and what such
   lines set; as long as no value has a line break, its sections are read back off it. -/
namespace ClusterNet.Ini

def lines (text : String) : List (List Char) := text.toList.splitOn '\n'

def settingLine (key value : String) : List Char := key.toList ++ ' ' :: '=' :: ' ' :: value.toList

/-- Some line of the text sets the key to the value. -/
def Sets (text key value : String) : Prop := settingLine key value ∈ lines text

/-- The key ends where its line says so, and its line is not that of a name. -/
def Word (key : String) : Prop := ∀ c ∈ ['\n', ' ', '['], c ∉ key.toList

theorem settingLine_ne_header {key value : String} (word : Word key) (rest : List Char) :
    settingLine key value ≠ '[' :: rest := by
  unfold settingLine
  cases chars : key.toList with
  | nil => simp
  | cons c cs =>
    intro same
    have bracket : c = '[' := (List.cons.inj same).1
    have plain := word '[' (by decide)
    rw [chars, bracket] at plain
    exact plain List.mem_cons_self

theorem settingLine_inj {key key' value value' : String} (word : Word key) (other : Word key')
    (same : settingLine key value = settingLine key' value') : key = key' ∧ value = value' := by
  have plain := word ' ' (by decide)
  have plain' := other ' ' (by decide)
  obtain ⟨keys, values⟩ := eq_of_joined plain plain' same
  refine ⟨String.toList_inj.mp keys, String.toList_inj.mp ?_⟩
  exact (List.cons.inj (List.cons.inj values).2).2

namespace Section

def lines (s : Section) : List (List Char) :=
  ('[' :: s.name.toList ++ [']']) :: s.settings.map fun (key, value) => settingLine key value

structure Named (s : Section) : Prop where
  name : '\n' ∉ s.name.toList
  keys : ∀ setting ∈ s.settings, Word setting.1

def OneLine (s : Section) : Prop := ∀ setting ∈ s.settings, '\n' ∉ setting.2.toList

theorem write_eq (s : Section) : s.write = s.lines.flatMap (· ++ ['\n']) := by
  simp [write, lines, settingLine, List.flatMap_map]

theorem lines_plain {s : Section} (named : s.Named) (oneLine : s.OneLine) :
    ∀ line ∈ s.lines, '\n' ∉ line := by
  simp only [lines, List.forall_mem_cons, List.forall_mem_map]
  constructor
  · simpa using named.name
  · intro setting member
    have key := named.keys setting member '\n' (by decide)
    simpa [settingLine] using ⟨key, oneLine setting member⟩

end Section

section

variable {line : List Char}

theorem splitOn_of_plain (plain : '\n' ∉ line) : line.splitOn '\n' = [line] :=
  List.splitOnP_eq_singleton fun _ member => beq_false_of_ne fun same => plain (same ▸ member)

theorem splitOn_append_break (line rest : List Char) :
    (line ++ '\n' :: rest).splitOn '\n' = line.splitOn '\n' ++ rest.splitOn '\n' :=
  List.splitOnP_append_cons line rest (beq_self_eq_true '\n')

theorem splitOn_ended (all : List (List Char)) (rest : List Char) :
    (all.flatMap (· ++ ['\n']) ++ rest).splitOn '\n' =
      all.flatMap (·.splitOn '\n') ++ rest.splitOn '\n' := by
  induction all with
  | nil => rfl
  | cons line others ih =>
    have shape : (line :: others).flatMap (· ++ ['\n']) ++ rest =
        line ++ '\n' :: (others.flatMap (· ++ ['\n']) ++ rest) := by simp
    rw [shape, splitOn_append_break, ih, List.flatMap_cons, List.append_assoc]

theorem flatMap_splitOn_of_plain {all : List (List Char)} (plain : ∀ line ∈ all, '\n' ∉ line) :
    all.flatMap (·.splitOn '\n') = all := by
  induction all with
  | nil => rfl
  | cons line others ih =>
    obtain ⟨first, later⟩ := List.forall_mem_cons.mp plain
    rw [List.flatMap_cons, splitOn_of_plain first, ih later]
    rfl

/-- The lines of a file are those of its sections, with an empty one after each. Where a value has
    line breaks its line falls apart. -/
theorem lines_write (first : Section) (others : List Section) :
    lines (write (first :: others)) =
      (first :: others).flatMap fun part => part.lines.flatMap (·.splitOn '\n') ++ [[]] := by
  have chars (all : List Section) : lines (write all) =
      (['\n'].intercalate (all.map Section.write)).splitOn '\n' := by
    simp [lines, write]
  rw [chars]
  clear chars
  induction others generalizing first with
  | nil =>
    have ended := splitOn_ended first.lines []
    simpa [Section.write_eq] using ended
  | cons second rest ih =>
    have shape : ['\n'].intercalate ((first :: second :: rest).map Section.write) =
        first.lines.flatMap (· ++ ['\n']) ++
          ([] ++ '\n' :: ['\n'].intercalate ((second :: rest).map Section.write)) := by
      simp [Section.write_eq]
    rw [shape, splitOn_ended, splitOn_append_break, ih second]
    simp

theorem mem_splitOn_settingLine {key value : String} (plain : '\n' ∉ key.toList) :
    line ∈ (settingLine key value).splitOn '\n' ↔
      (∃ shown, (lines value).head? = some shown.toList ∧ line = settingLine key shown) ∨
        line ∈ (lines value).tail := by
  have front {shown : List Char} (own : '\n' ∉ shown) :
      '\n' ∉ key.toList ++ ' ' :: '=' :: ' ' :: shown := by
    simpa using ⟨plain, own⟩
  unfold settingLine lines
  by_cases broken : '\n' ∈ value.toList
  · obtain ⟨shown, rest, same, own⟩ := List.eq_append_cons_of_mem broken
    have shape : key.toList ++ ' ' :: '=' :: ' ' :: (shown ++ '\n' :: rest) =
        (key.toList ++ ' ' :: '=' :: ' ' :: shown) ++ '\n' :: rest := by simp
    obtain ⟨text, rfl⟩ : ∃ text : String, shown = text.toList :=
      ⟨.ofList shown, String.toList_ofList.symm⟩
    rw [same, shape, splitOn_append_break, splitOn_append_break, splitOn_of_plain (front own),
      splitOn_of_plain own]
    simp [String.toList_inj]
  · rw [splitOn_of_plain (front broken), splitOn_of_plain broken]
    simp [String.toList_inj]

end

namespace Section

/-- The section sets the key to a value that reads like this up to its first line break. -/
def Shows (s : Section) (key value : String) : Prop :=
  ∃ given, (key, given) ∈ s.settings ∧ (Ini.lines given).head? = some value.toList

/-- A value of the section goes on, behind a line break, with a line that sets the key. -/
def Carries (s : Section) (key value : String) : Prop :=
  ∃ setting ∈ s.settings, settingLine key value ∈ (Ini.lines setting.2).tail

theorem not_carries_of_oneLine {s : Section} (oneLine : s.OneLine) (key value : String) :
    ¬s.Carries key value := by
  intro ⟨setting, member, behind⟩
  rw [Ini.lines, splitOn_of_plain (oneLine setting member)] at behind
  cases behind

theorem mem_split_lines_iff {s : Section} (named : s.Named) {key value : String}
    (word : Word key) :
    settingLine key value ∈ s.lines.flatMap (·.splitOn '\n') ↔
      s.Shows key value ∨ s.Carries key value := by
  have header : '\n' ∉ '[' :: s.name.toList ++ [']'] := by simpa using named.name
  have other : settingLine key value ≠ '[' :: s.name.toList ++ [']'] :=
    settingLine_ne_header word _
  have plain := fun setting member => named.keys setting member '\n' (by decide)
  rw [lines, List.flatMap_cons, splitOn_of_plain header, List.mem_append, List.mem_singleton,
    or_iff_right other, List.mem_flatMap]
  simp only [List.mem_map, exists_exists_and_eq_and]
  constructor
  · intro ⟨setting, member, found⟩
    rcases (mem_splitOn_settingLine (plain _ member)).mp found with ⟨shown, head, same⟩ | behind
    · obtain ⟨rfl, rfl⟩ := settingLine_inj word (named.keys _ member) same
      exact .inl ⟨setting.2, member, head⟩
    · exact .inr ⟨setting, member, behind⟩
  · intro set
    rcases set with ⟨given, member, head⟩ | ⟨setting, member, behind⟩
    · exact ⟨(key, given), member,
        (mem_splitOn_settingLine (plain _ member)).mpr (.inl ⟨_, head, rfl⟩)⟩
    · exact ⟨setting, member, (mem_splitOn_settingLine (plain _ member)).mpr (.inr behind)⟩

end Section

theorem sets_write_iff {first : Section} {others : List Section}
    (named : ∀ part ∈ first :: others, part.Named) {key value : String} (word : Word key) :
    Sets (write (first :: others)) key value ↔
      ∃ part ∈ first :: others, part.Shows key value ∨ part.Carries key value := by
  have written : settingLine key value ≠ [] := by simp [settingLine]
  rw [Sets, lines_write, List.mem_flatMap]
  refine exists_congr fun part => and_congr_right fun member => ?_
  rw [List.mem_append, List.mem_singleton, or_iff_left written]
  exact Section.mem_split_lines_iff (named part member) word

/-- A value with a line break sets more than its section does. -/
example : Sets (write [⟨"cloud", [("region", "one\ndebug = true")]⟩]) "debug" "true" := by
  unfold Sets
  decide

def settingOf (line : List Char) : String × String :=
  (.ofList (line.takeWhile (· ≠ ' ')), .ofList ((line.dropWhile (· ≠ ' ')).drop 3))

/-- The settings up to the first section, and the sections. -/
def gather : List (List Char) → List (String × String) × List Section
  | [] => ([], [])
  | [] :: rest => gather rest
  | ('[' :: name) :: rest => ([], ⟨.ofList name.dropLast, (gather rest).1⟩ :: (gather rest).2)
  | line :: rest => (settingOf line :: (gather rest).1, (gather rest).2)

def read (text : String) : List Section := (gather (lines text)).2

def valuesIn (text name key : String) : List String :=
  ((read text).filter (·.name = name)).flatMap fun part =>
    (part.settings.filter (·.1 = key)).map Prod.snd

theorem settingOf_settingLine {key : String} (word : Word key) (value : String) :
    settingOf (settingLine key value) = (key, value) := by
  have plain := word ' ' (by decide)
  rw [settingOf, settingLine, takeWhile_before plain, dropWhile_before plain]
  simp

theorem gather_setting {key : String} (word : Word key) (value : String)
    (rest : List (List Char)) :
    gather (settingLine key value :: rest) =
      ((key, value) :: (gather rest).1, (gather rest).2) := by
  rw [gather, settingOf_settingLine word]
  · simp [settingLine]
  · exact settingLine_ne_header word

theorem gather_settings {all : List (String × String)} (words : ∀ setting ∈ all, Word setting.1)
    (rest : List (List Char)) :
    gather ((all.map fun (key, value) => settingLine key value) ++ rest) =
      (all ++ (gather rest).1, (gather rest).2) := by
  induction all with
  | nil => rfl
  | cons setting others ih =>
    obtain ⟨first, later⟩ := List.forall_mem_cons.mp words
    rw [List.map_cons, List.cons_append, gather_setting first, ih later]
    rfl

theorem gather_sections {parts : List Section} (named : ∀ part ∈ parts, part.Named) :
    gather (parts.flatMap fun part => part.lines ++ [[]]) = ([], parts) := by
  induction parts with
  | nil => rfl
  | cons part others ih =>
    obtain ⟨first, later⟩ := List.forall_mem_cons.mp named
    have settings := gather_settings first.keys
      ([] :: others.flatMap fun part => part.lines ++ [[]])
    rw [gather, ih later, List.append_nil] at settings
    rw [List.flatMap_cons, Section.lines, List.cons_append, List.cons_append, List.cons_append,
      gather, List.append_assoc, List.singleton_append, settings]
    simp

theorem read_write {first : Section} {others : List Section}
    (named : ∀ part ∈ first :: others, part.Named)
    (oneLine : ∀ part ∈ first :: others, part.OneLine) :
    read (write (first :: others)) = first :: others := by
  have whole : ∀ part ∈ first :: others,
      part.lines.flatMap (·.splitOn '\n') ++ [[]] = part.lines ++ [[]] := by
    intro part member
    rw [flatMap_splitOn_of_plain (Section.lines_plain (named part member) (oneLine part member))]
  rw [read, lines_write, List.flatMap_congr whole, gather_sections named]

theorem mem_settings {key value : String} {all : List (String × Option String)} :
    (key, value) ∈ settings all ↔ (key, some value) ∈ all := by
  simp [settings]

theorem forall_settings_cons {key : String} {value : Option String}
    {all : List (String × Option String)} {p : String × String → Prop} :
    (∀ setting ∈ settings ((key, value) :: all), p setting) ↔
      (∀ text ∈ value, p (key, text)) ∧ ∀ setting ∈ settings all, p setting := by
  cases value <;> simp [settings]

end ClusterNet.Ini
