import Mathlib.Data.List.SplitBy
import ClusterNet.Proofs.LineStarts
import ClusterNet.Proofs.Progress
import ClusterNet.Proofs.Trust

/- The documents of a pass. Its text puts a line of three dashes in front of every object, and no
   object's text has such a line of its own, so the text is cut at these lines into what the objects
   were written as. The writer ends a literal block whose text ends with a break by that break: if
   only line feeds end a line, such a block takes the dashes behind it into its last line. -/
namespace ClusterNet

namespace Yaml

/-- The lines of a text, each with the character that ends it. -/
def lines (ends : Char → Bool) (cs : List Char) : List (List Char) := cs.splitBy fun c _ => !ends c

def isLineFeed (c : Char) : Bool := c = '\n'

theorem isBreak_of_isLineFeed (c : Char) (feed : isLineFeed c = true) : isBreak c = true := by
  obtain rfl := of_decide_eq_true feed
  rfl

def isSeparator (ends : Char → Bool) (line : List Char) : Bool :=
  line.takeWhile (!ends ·) = ['-', '-', '-']

def separator : List Char := ['-', '-', '-', '\n']

def stream (documents : List (List Char)) : List Char := documents.flatMap (separator ++ ·)

/-- The text does not leave its last line open. -/
def isClosed (ends : Char → Bool) (cs : List Char) : Bool := cs.getLast?.any ends

theorem atStart_of_ne_nil {ends : Char → Bool} {fresh : Bool} {cs : List Char} (some : cs ≠ []) :
    atStart ends fresh cs = isClosed ends cs := by
  rw [isClosed, atStart, List.getLast?_eq_some_getLast some]
  rfl

structure Body (cs : List Char) : Prop where
  some : cs ≠ []
  leads : Leads isBreak true cs true

/-- The separators are as many as the documents, and what stands between them is the documents. -/
structure Separates (ends : Char → Bool) (documents : List (List Char)) (cs : List Char) :
    Prop where
  count : (lines ends cs).countP (isSeparator ends) = documents.length
  parts : ((lines ends cs).splitOnP (isSeparator ends)).map List.flatten = [] :: documents

theorem Body.closed {cs : List Char} (body : Body cs) : isClosed isBreak cs = true := by
  rw [← atStart_of_ne_nil body.some, ← body.leads.eq_atStart]

theorem stream_cons (document : List Char) (rest : List (List Char)) :
    stream (document :: rest) = separator ++ (document ++ stream rest) := by
  rw [stream, List.flatMap_cons, List.append_assoc]
  rfl

theorem splitOnP_flatMap {α : Type} {p : α → Bool} {mark : α} (marks : p mark = true)
    {parts : List (List α)} (free : ∀ part ∈ parts, ∀ a ∈ part, p a = false) :
    (parts.flatMap (mark :: ·)).splitOnP p = [] :: parts := by
  have behind (first : List α) (plain : ∀ a ∈ first, p a = false) :
      (first ++ parts.flatMap (mark :: ·)).splitOnP p = first :: parts := by
    induction parts generalizing first with
    | nil => simpa using List.splitOnP_eq_singleton plain
    | cons part parts ih =>
      obtain ⟨own, others⟩ := List.forall_mem_cons.mp free
      rw [List.flatMap_cons, List.cons_append, List.splitOnP_append_cons _ _ marks,
        List.splitOnP_eq_singleton plain, ih others part own]
      rfl
  exact behind [] (List.forall_mem_nil _)

theorem writeEntries_ne_nil (indent : Nat) (entry : String × Json) (rest : List (String × Json)) :
    writeEntries indent (entry :: rest) ≠ [] := by
  have key : writeKey indent entry.1 ≠ [] := by
    unfold writeKey
    split <;> simp
  rw [writeEntries]
  simp [key]

theorem unmarked_of_prefix {xs ys : List Char} (unmarked : hasDocumentMark ys = false)
    (early : xs <+: ys) : hasDocumentMark xs = false := by
  refine Bool.eq_false_iff.mpr fun mark => Bool.eq_false_iff.mp unmarked ?_
  exact hasDocumentMark_iff.mpr ((hasDocumentMark_iff.mp mark).imp (·.trans early) (·.trans early))

section

variable {ends : Char → Bool} {xs ys cs line : List Char} {after : Bool}

theorem flatten_lines (ends : Char → Bool) (cs : List Char) : (lines ends cs).flatten = cs :=
  List.flatten_splitBy ..

theorem lines_append (closed : isClosed ends xs = true) (ys : List Char) :
    lines ends (xs ++ ys) = lines ends xs ++ lines ends ys := by
  refine List.splitBy_append ?_
  intro c last d _
  rw [isClosed, Option.mem_def.mp last] at closed
  rw [show ends c = true from closed]
  rfl

theorem atStart_of_lines {before behind : List (List Char)}
    (same : lines ends cs = before ++ line :: behind) :
    atStart ends true before.flatten = true := by
  rcases List.eq_nil_or_concat before with rfl | ⟨others, last, rfl⟩
  · rfl
  · have chain := List.isChain_getLast_head_splitBy (fun c _ => !ends c) cs
    rw [show cs.splitBy _ = _ from same, List.concat_eq_append, List.append_assoc] at chain
    have meeting := (List.isChain_cons_cons.mp (List.isChain_append.mp chain).2.1).1
    obtain ⟨some, -, stops⟩ := meeting
    rw [List.concat_eq_append, List.flatten_append, List.flatten_singleton, atStart,
      List.getLast?_append_of_ne_nil _ some, List.getLast?_eq_some_getLast some]
    simpa using stops

theorem Leads.unmarked (leads : Leads ends true cs after) :
    ∀ line ∈ lines ends cs, hasDocumentMark line = false := by
  intro line member
  obtain ⟨before, behind, same⟩ := List.append_of_mem member
  have whole : before.flatten ++ (line ++ behind.flatten) = cs := by
    rw [← flatten_lines ends cs, same, List.flatten_append, List.flatten_cons]
  rw [← whole] at leads
  have onwards := leads.of_append
  rw [atStart_of_lines same] at onwards
  cases line with
  | nil => rfl
  | cons c line =>
    cases onwards with
    | cons start rest =>
      have unmarked := start rfl []
      rw [List.append_nil] at unmarked
      exact unmarked_of_prefix unmarked (List.prefix_append _ behind.flatten)

theorem hasDocumentMark_of_isSeparator (separates : isSeparator ends line = true) :
    hasDocumentMark line = true := by
  have dashes := of_decide_eq_true separates
  refine hasDocumentMark_iff.mpr (.inl ?_)
  rw [← dashes]
  exact List.takeWhile_prefix _

theorem Leads.no_separator (leads : Leads ends true cs after) :
    ∀ line ∈ lines ends cs, isSeparator ends line = false := by
  intro line member
  refine Bool.eq_false_iff.mpr fun separates => ?_
  have marked := hasDocumentMark_of_isSeparator separates
  rw [leads.unmarked line member] at marked
  cases marked

end

section

variable {ends : Char → Bool} (breaks : ∀ c, ends c = true → isBreak c = true)

include breaks

theorem dash_not_end : ends '-' = false :=
  Bool.eq_false_iff.mpr fun stops => Bool.false_ne_true (breaks '-' stops)

theorem Body.no_separator {cs : List Char} (body : Body cs) :
    ∀ line ∈ lines ends cs, isSeparator ends line = false :=
  (body.leads.coarser breaks true fun _ => rfl).no_separator

/-- A text that is not closed takes the separator behind it into its last line. -/
theorem Body.no_separator_behind {cs : List Char} (body : Body cs)
    (left : isClosed ends cs = false) :
    ∀ line ∈ lines ends (cs ++ separator), isSeparator ends line = false := by
  have inside := body.leads.coarser breaks true fun _ => rfl
  rw [atStart_of_ne_nil body.some, left] at inside
  have dashes : Leads isBreak false separator true :=
    (leads_flat (by decide : Flat ['-', '-', '-'])).append leads_lineFeed
  exact (inside.append (dashes.coarser breaks false id)).no_separator

variable (feed : ends '\n' = true)

include feed

theorem isSeparator_separator : isSeparator ends separator = true := by
  simp [isSeparator, separator, dash_not_end breaks, feed]

theorem lines_separator (cs : List Char) :
    lines ends (separator ++ cs) = separator :: lines ends cs := by
  have one : lines ends separator = [separator] :=
    List.splitBy_of_isChain (by decide) (by simp [separator, dash_not_end breaks])
  have closed : isClosed ends separator = true := feed
  rw [lines_append closed, one]
  rfl

theorem countP_separator (cs : List Char) :
    (lines ends (separator ++ cs)).countP (isSeparator ends) =
      (lines ends cs).countP (isSeparator ends) + 1 := by
  rw [lines_separator breaks feed, List.countP_cons_of_pos (isSeparator_separator breaks feed)]

theorem countP_stream {document : List Char} {rest : List (List Char)}
    (bodies : ∀ cs ∈ document :: rest, Body cs) :
    (lines ends (stream (document :: rest))).countP (isSeparator ends) =
      (document :: rest).dropLast.countP (isClosed ends) + 1 := by
  have none {all : List (List Char)} (free : ∀ line ∈ all, isSeparator ends line = false) :
      all.countP (isSeparator ends) = 0 :=
    List.countP_eq_zero.mpr fun line member => Bool.eq_false_iff.mp (free line member)
  induction rest generalizing document with
  | nil =>
    have free := (bodies document List.mem_cons_self).no_separator breaks
    rw [stream_cons, countP_separator breaks feed, stream, List.flatMap_nil, List.append_nil,
      none free]
    rfl
  | cons second rest ih =>
    obtain ⟨body, later⟩ := List.forall_mem_cons.mp bodies
    have behind := ih later
    rw [stream_cons, countP_separator breaks feed, List.dropLast_cons_cons, List.countP_cons]
    cases closed : isClosed ends document with
    | true =>
      rw [lines_append closed, List.countP_append, none (body.no_separator breaks), behind]
      simp
    | false =>
      -- the second separator is in the last line of the first text
      have glued : isClosed ends (document ++ separator) = true := by
        rw [isClosed, List.getLast?_append_of_ne_nil _ (by decide)]
        exact feed
      rw [stream_cons, countP_separator breaks feed] at behind
      rw [stream_cons, ← List.append_assoc, lines_append glued, List.countP_append,
        none (body.no_separator_behind breaks closed)]
      simpa using behind

theorem countP_stream_iff {documents : List (List Char)} (bodies : ∀ cs ∈ documents, Body cs) :
    (lines ends (stream documents)).countP (isSeparator ends) = documents.length ↔
      ∀ cs ∈ documents.dropLast, isClosed ends cs = true := by
  cases documents with
  | nil => exact iff_of_true rfl (List.forall_mem_nil _)
  | cons document rest =>
    have most : (document :: rest).dropLast.length = rest.length := List.length_dropLast
    rw [countP_stream breaks feed bodies, List.length_cons, Nat.add_right_cancel_iff, ← most,
      List.countP_eq_length]

theorem lines_stream {documents : List (List Char)}
    (closed : ∀ cs ∈ documents.dropLast, isClosed ends cs = true) :
    lines ends (stream documents) = documents.flatMap (separator :: lines ends ·) := by
  induction documents with
  | nil => rfl
  | cons document rest ih =>
    rw [stream_cons, lines_separator breaks feed, List.flatMap_cons]
    cases rest with
    | nil => simp [stream]
    | cons second rest =>
      rw [List.dropLast_cons_cons] at closed
      obtain ⟨first, later⟩ := List.forall_mem_cons.mp closed
      rw [lines_append first, ih later]
      rfl

/-- The text is cut in the right places if and only if it is cut often enough. -/
theorem separates_iff {documents : List (List Char)} (bodies : ∀ cs ∈ documents, Body cs) :
    Separates ends documents (stream documents) ↔
      ∀ cs ∈ documents.dropLast, isClosed ends cs = true := by
  have often := countP_stream_iff breaks feed bodies
  refine ⟨fun separated => often.mp separated.count, fun closed => ⟨often.mpr closed, ?_⟩⟩
  have free : ∀ part ∈ documents.map (lines ends), ∀ line ∈ part, isSeparator ends line = false :=
    List.forall_mem_map.mpr fun cs member => (bodies cs member).no_separator breaks
  have shape : lines ends (stream documents) =
      (documents.map (lines ends)).flatMap (separator :: ·) := by
    rw [lines_stream breaks feed closed, List.flatMap_map]
  rw [shape, splitOnP_flatMap (isSeparator_separator breaks feed) free, List.map_cons, List.map_map]
  have whole : List.flatten ∘ lines ends = id := funext (flatten_lines ends)
  rw [whole, List.map_id]
  rfl

end

end Yaml

open Yaml

namespace Manifest

def document (m : Manifest) : List Char := (Yaml.text m.toJson).toList

theorem body_document (m : Manifest) : Body m.document := by
  have version : ∃ value rest, m.toJson = .object (("apiVersion", value) :: rest) := ⟨_, _, rfl⟩
  obtain ⟨value, rest, shape⟩ := version
  have written : m.document = writeEntries 0 (("apiVersion", value) :: rest) := by
    rw [document, text, String.toList_ofList, shape, write]
  rw [written]
  exact ⟨writeEntries_ne_nil 0 _ rest, leads_writeEntries 0 _⟩

end Manifest

namespace Pass

namespace Outcome

def documents (o : Outcome) : List (List Char) := o.objects.map Manifest.document

theorem toList_yaml (o : Outcome) : o.yaml.toList = stream o.documents := by
  have marked (m : Manifest) :
      ("---\n" ++ Yaml.text m.toJson).toList = separator ++ m.document := String.toList_append
  rw [yaml, documents, stream, List.flatMap_map, String.toList_join, List.flatMap_map]
  exact congrArg (List.flatMap · o.objects) (funext marked)

theorem bodies (o : Outcome) : ∀ cs ∈ o.documents, Body cs :=
  List.forall_mem_map.mpr fun m _ => m.body_document

end Outcome

/-- In the text of a pass the separators number the objects and cut it into what the objects were
    written as, and nothing in these begins a line with a mark. Where lines end at line feeds only,
    that is so as long as all objects but the last one are written with a line feed at the end. -/
theorem yaml_separates_objects (o : Outcome) :
    Separates isBreak o.documents o.yaml.toList ∧
      (o.objects = [] ∧ o.yaml = "" ∨ separator <+: o.yaml.toList) ∧
      (∀ cs ∈ o.documents, ∀ line ∈ lines isBreak cs ++ lines isLineFeed cs,
        hasDocumentMark line = false) ∧
      ((lines isLineFeed o.yaml.toList).countP (isSeparator isLineFeed) = o.objects.length ↔
        ∀ cs ∈ o.documents.dropLast, isClosed isLineFeed cs = true) ∧
      (Separates isLineFeed o.documents o.yaml.toList ↔
        ∀ cs ∈ o.documents.dropLast, isClosed isLineFeed cs = true) := by
  have number : o.documents.length = o.objects.length := List.length_map _
  have bodies := o.bodies
  rw [o.toList_yaml]
  refine ⟨?_, ?_, ?_, ?_, separates_iff isBreak_of_isLineFeed rfl bodies⟩
  · refine (separates_iff (fun _ => id) rfl bodies).mpr ?_
    exact fun cs member => (bodies cs (List.dropLast_subset _ member)).closed
  · cases objects : o.objects with
    | nil =>
      refine .inl ⟨rfl, ?_⟩
      rw [Outcome.yaml, objects]
      rfl
    | cons m rest =>
      rw [Outcome.documents, objects, List.map_cons, stream_cons]
      exact .inr (List.prefix_append _ _)
  · intro cs member
    have leads := (bodies cs member).leads
    have coarser := leads.coarser isBreak_of_isLineFeed true fun _ => rfl
    exact List.forall_mem_append.mpr ⟨leads.unmarked, coarser.unmarked⟩
  · rw [← number]
    exact countP_stream_iff isBreak_of_isLineFeed rfl bodies

/-- An authority that ends with another break than a line feed. -/
def brokenAuthority : String := "first\nsecond\u2028"

def brokenFacts : Facts :=
  { rollingFacts "4.14.0" .none true with
    openStack := (rollingFacts "4.14.0" .none true).openStack.map fun f =>
      { f with caBundle := some brokenAuthority } }

def bareSample : Spec :=
  { Spec.empty with
    defaultNetwork := ⟨"ThirdParty", none⟩
    deployProxy := some false
    disableMultiNetwork := some true
    nodeIdentity := some ⟨some false, none⟩ }

theorem bareSample_accepted :
    check .builtIn bareSample none =
      .ok (defaulted (Provider.forType .thirdParty) bareSample) := by
  decide +kernel

/-- The authority takes the separator behind it into its last line, and no objects make no text. -/
theorem separators_are_lost :
    (∃ result, reconcile .builtIn kuryrSample none brokenFacts = .ok result ∧
      (lines isLineFeed result.yaml.toList).countP (isSeparator isLineFeed) ≠
        result.objects.length ∧
      ¬Separates isLineFeed result.documents result.yaml.toList) ∧
    ∃ result, reconcile .builtIn bareSample none .none = .ok result ∧
      ¬separator <+: result.yaml.toList := by
  constructor
  · obtain ⟨result, run, -⟩ := reconcile_of_check kuryrSample_accepted brokenFacts
    have held : (reconcile .builtIn kuryrSample none brokenFacts).toOption.any
        (·.objects.dropLast.any (· = Kuryr.caMap brokenAuthority)) = true := by
      decide +kernel
    rw [run] at held
    obtain ⟨m, early, same⟩ := List.any_eq_true.mp held
    obtain rfl := of_decide_eq_true same
    have listed : (Kuryr.caMap brokenAuthority).document ∈ result.documents.dropLast := by
      rw [Outcome.documents, ← List.map_dropLast]
      exact List.mem_map_of_mem early
    have left : isClosed isLineFeed (Kuryr.caMap brokenAuthority).document = false := by
      rw [Manifest.document, text, String.toList_ofList]
      decide +kernel
    have lost : ¬∀ cs ∈ result.documents.dropLast, isClosed isLineFeed cs = true := by
      intro closed
      exact Bool.false_ne_true (left.symm.trans (closed _ listed))
    have number : result.documents.length = result.objects.length := List.length_map _
    refine ⟨result, run, ?_, ?_⟩
    · rw [← number, result.toList_yaml]
      exact mt (countP_stream_iff isBreak_of_isLineFeed rfl result.bodies).mp lost
    · rw [result.toList_yaml]
      exact mt (separates_iff isBreak_of_isLineFeed rfl result.bodies).mp lost
  · obtain ⟨result, run, -⟩ := reconcile_of_check bareSample_accepted .none
    have empty : (reconcile .builtIn bareSample none .none).toOption.any
        (·.objects.isEmpty) = true := by
      decide +kernel
    rw [run] at empty
    have none : result.objects = [] := List.isEmpty_iff.mp empty
    refine ⟨result, run, ?_⟩
    rw [result.toList_yaml, Outcome.documents, none]
    exact fun found => absurd (List.prefix_nil.mp found) (by decide)

end Pass
end ClusterNet
