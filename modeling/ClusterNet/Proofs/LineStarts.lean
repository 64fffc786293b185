import ClusterNet.Yaml.Printer
import ClusterNet.Proofs.Extents
import ClusterNet.Proofs.Octets

/- How the lines of written YAML begin. Three dashes or three points at the start of a line would
   start or end a document. The writer puts every line of a text behind indentation or quotes, and
   does not leave a key plain that looks like a mark, so no line of a value begins with one. Lines
   end here at every character that YAML takes for a break. All that matters for the next line is
   whether the writer is at the start of one. -/
namespace ClusterNet.Yaml

theorem hasDocumentMark_iff {cs : List Char} :
    hasDocumentMark cs = true ↔ ['-', '-', '-'] <+: cs ∨ ['.', '.', '.'] <+: cs := by
  unfold hasDocumentMark
  split
  · simp
  · simp
  · next dashes points =>
    constructor
    · nofun
    · rintro (⟨rest, rfl⟩ | ⟨rest, rfl⟩)
      · exact absurd rfl (dashes rest)
      · exact absurd rfl (points rest)

/-- The text does not begin with a document mark, whatever follows it. -/
def Harmless (cs : List Char) : Prop := ∀ rest, hasDocumentMark (cs ++ rest) = false

/-- A text leads from a place in a line to another one, each at the start of the line or not, and
    none of the lines that begin in it begins with a document mark. -/
inductive Leads (ends : Char → Bool) : Bool → List Char → Bool → Prop
  | nil (fresh : Bool) : Leads ends fresh [] fresh
  | cons {fresh after : Bool} {c : Char} {cs : List Char}
      (start : fresh = true → Harmless (c :: cs)) (rest : Leads ends (ends c) cs after) :
      Leads ends fresh (c :: cs) after

/-- Whether a line begins behind the text, given whether one began in front of it. -/
def atStart (ends : Char → Bool) (fresh : Bool) (cs : List Char) : Bool :=
  (cs.getLast?.map ends).getD fresh

theorem atStart_cons (ends : Char → Bool) (fresh : Bool) (c : Char) (cs : List Char) :
    atStart ends fresh (c :: cs) = atStart ends (ends c) cs := by
  rw [atStart, atStart, List.getLast?_cons]
  cases cs.getLast? <;> rfl

section

variable {ends : Char → Bool} {fresh middle after : Bool} {c : Char} {xs ys cs : List Char}

theorem Harmless.append (harmless : Harmless xs) (ys : List Char) : Harmless (xs ++ ys) := by
  intro rest
  rw [List.append_assoc]
  exact harmless (ys ++ rest)

theorem harmless_of_first (dash : c ≠ '-') (point : c ≠ '.') (cs : List Char) :
    Harmless (c :: cs) := by
  intro rest
  refine Bool.eq_false_iff.mpr fun mark => ?_
  rcases hasDocumentMark_iff.mp mark with dashes | points
  · exact dash (List.cons_prefix_cons.mp dashes).1.symm
  · exact point (List.cons_prefix_cons.mp points).1.symm

theorem harmless_of_second (dash : c ≠ '-') (cs : List Char) : Harmless ('-' :: c :: cs) := by
  intro rest
  refine Bool.eq_false_iff.mpr fun mark => ?_
  rcases hasDocumentMark_iff.mp mark with dashes | points
  · exact dash (List.cons_prefix_cons.mp (List.cons_prefix_cons.mp dashes).2).1.symm
  · cases (List.cons_prefix_cons.mp points).1

theorem prefix_of_foreign {mark : List Char} (foreign : c ∉ mark) (found : mark <+: xs ++ c :: ys) :
    mark <+: xs := by
  rcases List.prefix_or_prefix_of_prefix found (List.prefix_append xs (c :: ys)) with
    early | ⟨more, rfl⟩
  · exact early
  · cases more with
    | nil => simp
    | cons d more =>
      have behind := (List.prefix_append_right_inj xs).mp found
      have same : d = c := (List.cons_prefix_cons.mp behind).1
      exact absurd (same ▸ List.mem_append_right xs List.mem_cons_self) foreign

theorem harmless_of_colon (unmarked : hasDocumentMark cs = false) : Harmless (cs ++ [':']) := by
  intro rest
  refine Bool.eq_false_iff.mpr fun mark => Bool.eq_false_iff.mp unmarked ?_
  rw [List.append_assoc] at mark
  rcases hasDocumentMark_iff.mp mark with dashes | points
  · exact hasDocumentMark_iff.mpr (.inl (prefix_of_foreign (by decide) dashes))
  · exact hasDocumentMark_iff.mpr (.inr (prefix_of_foreign (by decide) points))

theorem Leads.eq_atStart (leads : Leads ends fresh cs after) : after = atStart ends fresh cs := by
  induction leads with
  | nil fresh => rfl
  | cons start rest ih => rw [ih, atStart_cons]

theorem Leads.append (first : Leads ends fresh xs middle) (second : Leads ends middle ys after) :
    Leads ends fresh (xs ++ ys) after := by
  induction first with
  | nil fresh => exact second
  | cons start rest ih => exact .cons (fun new => (start new).append ys) (ih second)

theorem Leads.of_append (whole : Leads ends fresh (xs ++ ys) after) :
    Leads ends (atStart ends fresh xs) ys after := by
  induction xs generalizing fresh with
  | nil => exact whole
  | cons c xs ih =>
    cases whole with
    | cons start rest =>
      rw [atStart_cons]
      exact ih rest

/-- Where fewer characters end a line, fewer lines begin. -/
theorem Leads.coarser {fewer : Char → Bool} (breaks : ∀ c, fewer c = true → ends c = true)
    (leads : Leads ends fresh cs after) (seldom : Bool) (known : seldom = true → fresh = true) :
    Leads fewer seldom cs (atStart fewer seldom cs) := by
  induction leads generalizing seldom with
  | nil fresh => exact .nil seldom
  | cons start rest ih =>
    rw [atStart_cons]
    exact .cons (fun begun => start (known begun)) (ih _ (breaks _))

def Flat (cs : List Char) : Prop := ∀ c ∈ cs, isBreak c = false

instance (cs : List Char) : Decidable (Flat cs) := List.decidableBAll _ cs

theorem flat_cons : Flat (c :: cs) ↔ isBreak c = false ∧ Flat cs := List.forall_mem_cons

theorem flat_singleton : Flat [c] ↔ isBreak c = false := List.forall_mem_singleton

theorem flat_append : Flat (xs ++ ys) ↔ Flat xs ∧ Flat ys := List.forall_mem_append

theorem leads_flat (flat : Flat cs) : Leads isBreak false cs false := by
  induction cs with
  | nil => exact .nil false
  | cons c cs ih =>
    obtain ⟨first, later⟩ := flat_cons.mp flat
    refine .cons nofun ?_
    rw [first]
    exact ih later

theorem Leads.of_harmless (inside : Leads isBreak false cs after) (some : cs ≠ [])
    (harmless : Harmless cs) : Leads isBreak fresh cs after := by
  cases inside with
  | nil => exact absurd rfl some
  | cons start rest => exact .cons (fun _ => harmless) rest

theorem Leads.break_cons (stops : isBreak c = true) (rest : Leads isBreak true cs after) :
    Leads isBreak fresh (c :: cs) after := by
  have dash : c ≠ '-' := by
    rintro rfl
    cases stops
  have point : c ≠ '.' := by
    rintro rfl
    cases stops
  exact .cons (fun _ => harmless_of_first dash point cs) (stops ▸ rest)

theorem leads_lineFeed : Leads isBreak fresh ['\n'] true := .break_cons rfl (.nil true)

theorem Leads.space (rest : Leads isBreak false cs after) : Leads isBreak fresh (' ' :: cs) after :=
  .cons (fun _ => harmless_of_first (by decide) (by decide) cs) rest

theorem Leads.indented {n : Nat} (deep : 0 < n) (rest : Leads isBreak false cs after) :
    Leads isBreak fresh (indentation n ++ cs) after := by
  induction n generalizing fresh with
  | zero => exact absurd deep (by decide)
  | succ n ih =>
    refine .space ?_
    by_cases last : n = 0
    · subst last
      exact rest
    · exact ih (Nat.pos_of_ne_zero last)

theorem Leads.anywhere (n : Nat) (rest : ∀ fresh, Leads isBreak fresh cs after) :
    Leads isBreak true (indentation n ++ cs) after := by
  cases n with
  | zero => exact rest true
  | succ n => exact .indented (Nat.succ_pos n) (rest false)

theorem Leads.resumed {n : Nat} (deep : 0 < n) (broken : Bool)
    (rest : Leads isBreak false cs after) :
    Leads isBreak broken ((if broken then indentation n else []) ++ cs) after := by
  cases broken with
  | false => exact rest
  | true => exact .indented deep rest

end

section

variable {indent : Nat}

theorem flat_quoted {c : Char} (plain : isBreak c = false) :
    Flat (if c = '\'' then ['\'', '\''] else [c]) := by
  split
  · decide
  · exact flat_singleton.mpr plain

theorem flat_singleChars {cs : List Char} (flat : Flat cs) :
    Flat (singleChars indent false cs) := by
  induction cs with
  | nil => exact List.forall_mem_nil _
  | cons c cs ih =>
    obtain ⟨first, later⟩ := flat_cons.mp flat
    have shown : Flat (if c = '\'' then ['\'', '\''] else [c]) := flat_quoted first
    rw [singleChars, if_neg (Bool.eq_false_iff.mp first)]
    exact flat_append.mpr ⟨shown, ih later⟩

theorem leads_singleChars (deep : 0 < indent) (broken : Bool) (cs : List Char) :
    Leads isBreak broken (singleChars indent broken cs) false := by
  induction cs generalizing broken with
  | nil => simpa only [singleChars, List.append_nil] using Leads.resumed deep broken (.nil false)
  | cons c cs ih =>
    rw [singleChars]
    split
    · next stops => exact .break_cons stops (ih true)
    · next goes =>
      have quoted := leads_flat (flat_quoted (Bool.eq_false_iff.mpr goes))
      rw [List.append_assoc]
      exact .resumed deep broken (quoted.append (ih false))

/-- The flag that tells the writer to indent is whether a line begins. -/
theorem leads_literalChars (deep : 0 < indent) (broken : Bool) (cs : List Char) :
    Leads isBreak broken (literalChars indent broken cs) (atStart isBreak broken cs) := by
  induction cs generalizing broken with
  | nil => exact .nil broken
  | cons c cs ih =>
    rw [literalChars, atStart_cons]
    split
    · next stops => exact .break_cons stops (stops ▸ ih true)
    · next goes =>
      have flat : isBreak c = false := Bool.eq_false_iff.mpr goes
      have rest := (leads_flat (flat_singleton.mpr flat)).append (ih false)
      exact .resumed deep broken (flat ▸ rest)

theorem flat_upperHex (width n : Nat) : Flat (upperHex width n) := by
  have digits : ∀ d ∈ Nat.toDigits 16 n, isBreak d.toUpper = false :=
    Address.forall_mem_toDigits (by decide) (by decide) n
  refine flat_append.mpr ⟨?_, ?_⟩
  · intro c member
    rw [List.eq_of_mem_replicate member]
    rfl
  · exact List.forall_mem_map.mpr digits

theorem flat_doubleChar (c : Char) : Flat (doubleChar c) := by
  have letters : ∀ known ∈ escapes, isBreak known.2 = false := by decide
  unfold doubleChar
  split
  · next shown =>
    simp only [Bool.and_eq_true, Bool.not_eq_true', decide_eq_true_eq] at shown
    exact flat_singleton.mpr shown.1.1.2
  · split
    · next letter found =>
      have member := letters _ (List.mem_of_find?_eq_some found)
      exact flat_cons.mpr ⟨rfl, flat_singleton.mpr member⟩
    · dsimp only
      have escaped (mark : Char) (plain : isBreak mark = false) (width : Nat) :
          Flat ('\\' :: mark :: upperHex width c.toNat) := by
        have digits := flat_upperHex width c.toNat
        exact flat_cons.mpr ⟨rfl, flat_cons.mpr ⟨plain, digits⟩⟩
      split
      · exact escaped 'x' rfl 2
      · split
        · exact escaped 'u' rfl 4
        · exact escaped 'U' rfl 8

theorem flat_flatMap_doubleChar (cs : List Char) : Flat (cs.flatMap doubleChar) := by
  intro d member
  obtain ⟨c, -, inside⟩ := List.mem_flatMap.mp member
  exact flat_doubleChar c d inside

theorem flat_literalHeader (cs : List Char) : Flat (literalHeader cs) := by
  unfold literalHeader chomping
  repeat' split
  all_goals decide

theorem leads_endLine {cs : List Char} (some : cs ≠ []) :
    Leads isBreak (atStart isBreak true cs) (endLine cs) true := by
  unfold atStart endLine
  rw [List.getLast?_eq_some_getLast some]
  cases stops : isBreak (cs.getLast some) with
  | false => simpa [stops] using leads_lineFeed
  | true => simpa [stops] using Leads.nil true

theorem plain_of_style {s : String} (shape : style s = .plain) :
    Flat s.toList ∧ hasDocumentMark s.toList = false := by
  have allowed : plainAllowed s.toList = true := by
    simp only [style] at shape
    split at shape
    · split at shape <;> cases shape
    · split at shape
      · next chosen => exact (Bool.and_eq_true_iff.mp chosen).2
      · split at shape <;> cases shape
  simp only [plainAllowed, Bool.and_eq_true, Bool.not_eq_true', List.any_eq_false] at allowed
  obtain ⟨⟨⟨⟨-, flat⟩, unmarked⟩, -⟩, -⟩ := allowed
  exact ⟨fun c member => Bool.eq_false_iff.mpr (flat c member), unmarked⟩

theorem ne_nil_of_style {s : String} (shape : style s = .literal) : s.toList ≠ [] := by
  simp only [style] at shape
  split at shape
  · next feed => exact List.ne_nil_of_mem feed
  · repeat' split at shape
    all_goals cases shape

theorem leads_writeScalar (deep : 0 < indent) (s : String) :
    Leads isBreak false (writeScalar indent s) true := by
  have quote (mark : Char) (plain : isBreak mark = false) : Leads isBreak false [mark, '\n'] true :=
    (leads_flat (flat_singleton.mpr plain)).append leads_lineFeed
  rw [writeScalar]
  cases shape : style s with
  | plain =>
    have flat := (plain_of_style shape).1
    exact .space ((leads_flat flat).append leads_lineFeed)
  | single =>
    have opening : Leads isBreak false [' ', '\''] false := leads_flat (by decide)
    exact (opening.append (leads_singleChars deep false s.toList)).append (quote '\'' rfl)
  | double =>
    have opening : Leads isBreak false [' ', '"'] false := leads_flat (by decide)
    have escaped := leads_flat (flat_flatMap_doubleChar s.toList)
    exact (opening.append escaped).append (quote '"' rfl)
  | literal =>
    have header := leads_flat (flat_literalHeader s.toList)
    have body := leads_literalChars deep true s.toList
    exact .space ((header.append (.break_cons rfl body)).append
      (leads_endLine (ne_nil_of_style shape)))

theorem isBreak_of_isNumberChar {c : Char} (numeric : Json.isNumberChar c = true) :
    isBreak c = false := by
  refine Bool.eq_false_iff.mpr fun stops => ?_
  have code (n : Nat) (same : c.toNat = n) : c = Char.ofNat n := by rw [← same, Char.ofNat_toNat]
  simp only [isBreak, Bool.or_eq_true, decide_eq_true_eq] at stops
  rcases stops with (((rfl | rfl) | same) | same) | same
  · cases numeric
  · cases numeric
  all_goals
    rw [code _ same] at numeric
    cases numeric

theorem flat_numberText (n : Number) : Flat (numberText n).toList := by
  have flat {cs : List Char} (numeric : Json.Numeric cs) : Flat cs :=
    fun c member => isBreak_of_isNumberChar (numeric c member)
  cases n with
  | integer value =>
    cases value with
    | ofNat n =>
      have digits : (numberText (.integer (.ofNat n))).toList = Nat.toDigits 10 n := by
        simp [numberText, toString, Int.repr, Nat.repr]
      exact digits ▸ flat (Json.numeric_toDigits n)
    | negSucc n =>
      have digits : (numberText (.integer (.negSucc n))).toList =
          '-' :: Nat.toDigits 10 (n + 1) := by
        simp [numberText, toString, Int.repr, Nat.repr]
      exact digits ▸ flat (Json.numeric_cons.mpr ⟨rfl, Json.numeric_toDigits (n + 1)⟩)
  | real x => exact flat (Json.numberText_layout Decimal.yamlLayout x).numeric

theorem flat_writeSimpleKey {key : String} (simple : isSimpleKey key = true) :
    Flat (writeSimpleKey key) := by
  have flat : Flat key.toList := by
    rw [isSimpleKey, Bool.and_eq_true, Bool.not_eq_true', List.any_eq_false] at simple
    exact fun c member => Bool.eq_false_iff.mpr (simple.1 c member)
  have quoted {quote : Char} (plain : isBreak quote = false) {cs : List Char} (inside : Flat cs) :
      Flat (quote :: cs ++ [quote]) :=
    flat_append.mpr ⟨flat_cons.mpr ⟨plain, inside⟩, flat_singleton.mpr plain⟩
  unfold writeSimpleKey
  dsimp only
  split
  · exact flat
  · exact quoted rfl (flat_singleChars flat)
  · exact quoted rfl (flat_flatMap_doubleChar key.toList)
  · exact quoted rfl (flat_flatMap_doubleChar key.toList)

theorem harmless_writeSimpleKey (key : String) : Harmless (writeSimpleKey key ++ [':']) := by
  unfold writeSimpleKey
  dsimp only
  split
  · next shape => exact harmless_of_colon (plain_of_style shape).2
  all_goals exact harmless_of_first (by decide) (by decide) _

theorem leads_writeKey (indent : Nat) (fresh : Bool) (key : String) :
    Leads isBreak fresh (writeKey indent key) false := by
  unfold writeKey
  split
  · next simple =>
    have flat := flat_append.mpr ⟨flat_writeSimpleKey simple, (by decide : Flat [':'])⟩
    exact .of_harmless (leads_flat flat)
      (List.append_ne_nil_of_right_ne_nil _ (List.cons_ne_nil ':' []))
      (harmless_writeSimpleKey key)
  · have colon (fresh : Bool) : Leads isBreak fresh [':'] false :=
      .cons (fun _ => harmless_of_first (by decide) (by decide) []) (.nil false)
    have long := leads_writeScalar (Nat.succ_pos (indent + 1)) key
    rw [List.append_assoc]
    exact .cons (fun _ => harmless_of_first (by decide) (by decide) _)
      (long.append (.anywhere indent colon))

theorem writeScalar_eq_space (indent : Nat) (s : String) :
    ∃ cs, writeScalar indent s = ' ' :: cs := by
  rw [writeScalar]
  cases style s <;> exact ⟨_, rfl⟩

theorem writeNode_afterMark (indent : Nat) (json : Json) :
    ∃ cs, writeNode .afterMark indent json = ' ' :: cs := by
  cases json with
  | null => exact ⟨_, by rw [writeNode]; rfl⟩
  | boolean b => exact ⟨_, by rw [writeNode]; rfl⟩
  | number n => exact ⟨_, by rw [writeNode]; rfl⟩
  | text s =>
    rw [writeNode]
    exact writeScalar_eq_space (indent + 2) s
  | list items =>
    cases items with
    | nil => exact ⟨_, by rw [writeNode]⟩
    | cons item rest => exact ⟨_, by rw [writeNode]; rfl⟩
  | object entries =>
    cases entries with
    | nil => exact ⟨_, by rw [writeNode]⟩
    | cons entry rest => exact ⟨_, by rw [writeNode]; rfl⟩

theorem leads_item (fresh : Bool) {json : Json}
    (inside : Leads isBreak false (writeNode .afterMark indent json) true) :
    Leads isBreak fresh ('-' :: writeNode .afterMark indent json) true := by
  obtain ⟨cs, same⟩ := writeNode_afterMark indent json
  rw [same] at inside ⊢
  exact .cons (fun _ => harmless_of_second (by decide) cs) inside

theorem leads_lead {place : Place} {cs : List Char} {after : Bool}
    (rest : ∀ fresh, Leads isBreak fresh cs after) :
    Leads isBreak false (lead place indent ++ cs) after := by
  cases place with
  | underKey => exact .break_cons rfl (.anywhere indent rest)
  | afterMark => exact .space (rest false)

mutual

theorem leads_writeNode (place : Place) (indent : Nat) : (json : Json) →
    Leads isBreak false (writeNode place indent json) true
  | .null => by
    rw [writeNode]
    exact (leads_flat (by decide)).append leads_lineFeed
  | .boolean b => by
    rw [writeNode]
    have flat : Flat (' ' :: (toString b).toList) := by cases b <;> decide
    exact (leads_flat flat).append leads_lineFeed
  | .number n => by
    rw [writeNode]
    exact .space ((leads_flat (flat_numberText n)).append leads_lineFeed)
  | .text s => by
    rw [writeNode]
    exact leads_writeScalar (Nat.succ_pos (indent + 1)) s
  | .list [] => by
    rw [writeNode]
    exact (leads_flat (by decide : Flat [' ', '[', ']'])).append leads_lineFeed
  | .list (item :: rest) => by
    rw [writeNode, List.append_assoc]
    have inside := leads_writeNode .afterMark (listIndent place indent) item
    have behind := leads_writeItems (listIndent place indent) rest
    exact leads_lead fun fresh => (leads_item fresh inside).append behind
  | .object [] => by
    rw [writeNode]
    exact (leads_flat (by decide : Flat [' ', '\x7b', '\x7d'])).append leads_lineFeed
  | .object ((key, value) :: rest) => by
    rw [writeNode, List.append_assoc, List.append_assoc]
    have behind := (leads_writeNode (keyPlace key) (indent + 2) value).append
      (leads_writeEntries (indent + 2) rest)
    exact leads_lead fun fresh => (leads_writeKey (indent + 2) fresh key).append behind

theorem leads_writeItems (indent : Nat) : (items : List Json) →
    Leads isBreak true (writeItems indent items) true
  | [] => by
    rw [writeItems]
    exact .nil true
  | item :: rest => by
    rw [writeItems]
    have inside := leads_writeNode .afterMark indent item
    exact (Leads.anywhere indent fun fresh => leads_item fresh inside).append
      (leads_writeItems indent rest)

theorem leads_writeEntries (indent : Nat) : (entries : List (String × Json)) →
    Leads isBreak true (writeEntries indent entries) true
  | [] => by
    rw [writeEntries]
    exact .nil true
  | (key, value) :: rest => by
    rw [writeEntries]
    exact ((Leads.anywhere indent fun fresh => leads_writeKey indent fresh key).append
      (leads_writeNode (keyPlace key) indent value)).append (leads_writeEntries indent rest)

end

end

end ClusterNet.Yaml
