/- What can be wrong with a pass or its inputs, and how it is reported. -/
namespace ClusterNet

inductive Problem where
  | structural (field detail : String)
  | semantic (field detail : String)
  | unsafeChange (field detail : String)
  | unsupportedType (tag : String)
  | discoveryUnavailable (provider detail : String)
  | rejected (phase : String) (problems : List Problem)
  | renderContract (provider detail : String)
  | serialization (kind : Option String) (detail : String)
  | config (context detail : String)
  deriving Repr

namespace Problem

mutual

def decEq : (a b : Problem) → Decidable (a = b)
  | .rejected p xs, b => match b with
    | .rejected q ys =>
      if phase : p = q then
        match decEqList xs ys with
        | .isTrue h => .isTrue (phase ▸ h ▸ rfl)
        | .isFalse h => .isFalse fun e => h (Problem.rejected.inj e).2
      else .isFalse fun e => phase (Problem.rejected.inj e).1
    | .structural .. | .semantic .. | .unsafeChange .. | .unsupportedType _
    | .discoveryUnavailable .. | .renderContract .. | .serialization .. | .config .. =>
      .isFalse nofun
  | .structural f d, b => match b with
    | .structural g e => decidable_of_iff (f = g ∧ d = e) (by simp)
    | .semantic .. | .unsafeChange .. | .unsupportedType _ | .discoveryUnavailable ..
    | .rejected .. | .renderContract .. | .serialization .. | .config .. => .isFalse nofun
  | .semantic f d, b => match b with
    | .semantic g e => decidable_of_iff (f = g ∧ d = e) (by simp)
    | .structural .. | .unsafeChange .. | .unsupportedType _ | .discoveryUnavailable ..
    | .rejected .. | .renderContract .. | .serialization .. | .config .. => .isFalse nofun
  | .unsafeChange f d, b => match b with
    | .unsafeChange g e => decidable_of_iff (f = g ∧ d = e) (by simp)
    | .structural .. | .semantic .. | .unsupportedType _ | .discoveryUnavailable ..
    | .rejected .. | .renderContract .. | .serialization .. | .config .. => .isFalse nofun
  | .unsupportedType t, b => match b with
    | .unsupportedType u => decidable_of_iff (t = u) (by simp)
    | .structural .. | .semantic .. | .unsafeChange .. | .discoveryUnavailable ..
    | .rejected .. | .renderContract .. | .serialization .. | .config .. => .isFalse nofun
  | .discoveryUnavailable p d, b => match b with
    | .discoveryUnavailable q e => decidable_of_iff (p = q ∧ d = e) (by simp)
    | .structural .. | .semantic .. | .unsafeChange .. | .unsupportedType _
    | .rejected .. | .renderContract .. | .serialization .. | .config .. => .isFalse nofun
  | .renderContract p d, b => match b with
    | .renderContract q e => decidable_of_iff (p = q ∧ d = e) (by simp)
    | .structural .. | .semantic .. | .unsafeChange .. | .unsupportedType _
    | .discoveryUnavailable .. | .rejected .. | .serialization .. | .config .. => .isFalse nofun
  | .serialization k d, b => match b with
    | .serialization l e => decidable_of_iff (k = l ∧ d = e) (by simp)
    | .structural .. | .semantic .. | .unsafeChange .. | .unsupportedType _
    | .discoveryUnavailable .. | .rejected .. | .renderContract .. | .config .. => .isFalse nofun
  | .config c d, b => match b with
    | .config k e => decidable_of_iff (c = k ∧ d = e) (by simp)
    | .structural .. | .semantic .. | .unsafeChange .. | .unsupportedType _
    | .discoveryUnavailable .. | .rejected .. | .renderContract .. | .serialization .. =>
      .isFalse nofun

def decEqList : (a b : List Problem) → Decidable (a = b)
  | [], [] => .isTrue rfl
  | [], _ :: _ => .isFalse nofun
  | _ :: _, [] => .isFalse nofun
  | x :: xs, y :: ys => match decEq x y, decEqList xs ys with
    | .isTrue h, .isTrue t => .isTrue (h ▸ t ▸ rfl)
    | .isFalse h, _ => .isFalse fun e => h (List.cons.inj e).1
    | _, .isFalse t => .isFalse fun e => t (List.cons.inj e).2

end

instance : DecidableEq Problem := decEq

mutual

def message : Problem → String
  | .structural field detail | .semantic field detail => s!"invalid {field}: {detail}"
  | .unsafeChange field detail => s!"cannot change {field}: {detail}"
  | .unsupportedType tag => s!"unsupported default network type: {tag}"
  | .discoveryUnavailable provider detail =>
    s!"bootstrap facts unavailable [{provider}]: {detail}"
  | .rejected phase problems =>
    s!"{phase} failed with {problems.length} error(s): " ++ "; ".intercalate (messages problems)
  | .renderContract provider detail => s!"render contract violation [{provider}]: {detail}"
  | .serialization _ detail => s!"serialization error: {detail}"
  | .config context detail => s!"configuration error [{context}]: {detail}"

def messages : List Problem → List String
  | [] => []
  | problem :: rest => message problem :: messages rest

end

def isValidation : Problem → Bool
  | .structural .. | .semantic .. => true
  | _ => false

def isStructural : Problem → Bool
  | .structural .. => true
  | _ => false

def isRejection : Problem → Bool
  | .rejected .. => true
  | _ => false

def violations : Problem → List Problem
  | .rejected _ problems => problems
  | _ => []

end Problem

/-- Each problem once, where it first occurs. -/
def distinct (problems : List Problem) : List Problem :=
  problems.foldl (fun seen problem => if problem ∈ seen then seen else seen ++ [problem]) []

end ClusterNet
