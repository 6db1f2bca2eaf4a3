import ServerTree.Routing.Path
import ServerTree.Failure

/-!
# Path patterns

A pattern is a path whose segments are fixed texts or parameters in braces. A parameter stands for one
segment, for one segment of digits, or, at the end, for one or more segments.

## Main definitions
- `Converter`, `Segment`: what a segment of a pattern accepts
- `parsePattern`: the segments of a written pattern, or why it is refused

## Main statements
- `of_dropFinalNewline_iff`: what a test accepts that overlooks a line feed at the end
-/

namespace ServerTree

/-- What a parameter accepts. -/
inductive Converter where
  /-- One segment. -/
  | text
  /-- One segment of digits. -/
  | digits
  /-- One or more segments at the end. -/
  | rest
deriving DecidableEq, Repr

namespace Converter

/-- The name of a converter. -/
def name : Converter → String
  | .text => "str"
  | .digits => "int"
  | .rest => "path"

/-- The converter of a name. -/
def ofName? (s : String) : Option Converter :=
  if s = "str" then some .text
  else if s = "int" then some .digits
  else if s = "path" then some .rest
  else none

/-- The search pattern that describes a converter. -/
def source : Converter → String
  | .text => "[^/]+"
  | .digits => "\\d+"
  | .rest => ".+"

end Converter

/-- The text without one line feed at its end. -/
def dropFinalNewline (cs : List Char) : List Char :=
  match cs.getLast? with
  | some '\n' => cs.dropLast
  | _ => cs

/-- What is dropped from the end of a text is one line feed or nothing. -/
theorem eq_dropFinalNewline_append (cs : List Char) :
    cs = dropFinalNewline cs ∨ cs = dropFinalNewline cs ++ ['\n'] := by
  rw [dropFinalNewline]
  split
  · next h =>
    obtain ⟨front, rfl⟩ := List.getLast?_eq_some_iff.mp h
    exact .inr (by rw [List.dropLast_concat])
  · exact .inl rfl

/-- What holds of texts without line feeds holds after a line feed is dropped from the end exactly when it holds of the
text, or of what stands before the line feed. -/
theorem of_dropFinalNewline_iff {P : String → Prop} (hP : ∀ s, P s → '\n' ∉ s.toList) {s : String} :
    P (String.ofList (dropFinalNewline s.toList)) ↔ P s ∨ ∃ t, P t ∧ s = t ++ "\n" := by
  constructor
  · intro h
    rcases eq_dropFinalNewline_append s.toList with hwhole | hline
    · rw [← hwhole, String.ofList_toList] at h
      exact .inl h
    · refine .inr ⟨_, h, String.toList_inj.mp ?_⟩
      rw [String.toList_append, String.toList_ofList]
      exact hline
  · rintro (h | ⟨t, h, rfl⟩)
    · rcases eq_dropFinalNewline_append s.toList with hwhole | hline
      · rwa [← hwhole, String.ofList_toList]
      · exact absurd (by rw [hline]; simp) (hP s h)
    · have hdropped : dropFinalNewline (t ++ "\n").toList = t.toList := by simp [dropFinalNewline]
      rwa [hdropped, String.ofList_toList]

/-- Whether a segment is accepted in the place of one parameter. Digits may be followed by one line
feed. -/
def Converter.accepts (c : Converter) (segment : String) : Bool :=
  match c with
  | .text => true
  | .rest => true
  | .digits =>
    let ds := dropFinalNewline segment.toList
    !ds.isEmpty && ds.all Text.isDecimal

/-- A segment of a pattern. -/
inductive Segment where
  | fixed (text : String)
  | param (written name : String) (converter : Converter)
deriving DecidableEq, Repr

namespace Segment

/-- The segment as written. -/
def written : Segment → String
  | fixed text => text
  | param w _ _ => w

/-- The converter; fixed text counts as the plain one. -/
def converter : Segment → Converter
  | fixed _ => .text
  | param _ _ c => c

/-- Whether the segment takes everything that remains. -/
def isCatchAll (s : Segment) : Bool := s.converter = .rest

/-- The name of a parameter. -/
def name? : Segment → Option String
  | fixed _ => none
  | param _ n _ => some n

end Segment

/-- The name and the converter between the braces of a parameter: word characters, and optionally a
colon and more word characters. One line feed after the closing brace is ignored. -/
def braced? (part : List Char) : Option (String × Option String) :=
  match dropFinalNewline part with
  | '\x7b' :: r =>
    match r.getLast? with
    | some '\x7d' =>
      let cut := Text.cutAt ':' r.dropLast
      let isName (cs : List Char) : Bool := !cs.isEmpty && cs.all Text.isWord
      match cut with
      | (n, none) => if isName n then some (String.ofList n, none) else none
      | (n, some c) =>
        if isName n && isName c then some (String.ofList n, some (String.ofList c)) else none
    | _ => none
  | _ => none

/-- Reads one segment; `last` tells whether it ends the pattern `route`. -/
def parseSegment (route : String) (last : Bool) (part : String) : Except Refusal Segment :=
  match braced? part.toList with
  | none =>
    if part.toList.any fun c => c == '\x7b' || c == '\x7d' then
      .error (.malformedSegment part route)
    else .ok (.fixed part)
  | some (name, written) =>
    let word := written.getD "str"
    match Converter.ofName? word with
    | none => .error (.unknownConverter word route)
    | some .rest =>
      if last then .ok (.param part name .rest) else .error (.catchAllNotLast route)
    | some c => .ok (.param part name c)

/-- Reads the segments of the pattern `route` in order. -/
def parseSegments (route : String) : List String → Except Refusal (List Segment)
  | [] => .ok []
  | part :: parts => do
    let s ← parseSegment route parts.isEmpty part
    let r ← parseSegments route parts
    return s :: r

/-- The segments of a pattern. -/
def parsePattern (route : String) : Except Refusal (List Segment) :=
  parseSegments route (pathSegments route)

end ServerTree
