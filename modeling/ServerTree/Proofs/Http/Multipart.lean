import ServerTree.Http.Multipart
import ServerTree.Proofs.Http.Fields

/-!
# Forms are made of their parts

A multipart body is reported in pieces: names and values of headers and the data of a part may each be cut anywhere. The
collector puts the pieces together in one place for all parts, and so has to begin anew with every header and every part.
What it comes to depends on the parts alone, and each part adds what it says by itself.

## Main definitions
- `Part`, `CutPart`, `CutPart.reports`: a part, one that is cut into pieces, and how that is reported
- `Part.text?`, `Part.upload?`: what a part says by itself
- `form`, `formEntry`: the form of some parts, and what it has under a name

## Main statements
- `run_reports`: a part adds what it says to what the parts before it said
- `get?_form`: what the form of some parts has under a name
- `forms_are_made_of_parts`: the form of a body is that of its parts, however they are cut
-/

namespace ServerTree.Multipart

/-! ## Parts -/

/-- A part: its headers, by name and value, and its data. -/
structure Part where
  headers : List (Bytes × Bytes)
  data : Bytes
deriving DecidableEq

/-- A part whose header names, header values and data are cut into pieces. -/
structure CutPart where
  headers : List (List Bytes × List Bytes)
  data : List Bytes

/-- The part that the pieces make up. -/
def CutPart.part (p : CutPart) : Part := ⟨p.headers.map fun h => (h.1.flatten, h.2.flatten), p.data.flatten⟩

/-- How a header is reported. -/
def headerReports (h : List Bytes × List Bytes) : List PartEvent :=
  h.1.map .headerField ++ h.2.map .headerValue ++ [.headerEnd]

/-- How a part is reported. -/
def CutPart.reports (p : CutPart) : List PartEvent :=
  .partBegin :: (p.headers.flatMap headerReports ++ p.data.map .partData ++ [.partEnd])

namespace Part

variable (reader : Reader) (p : Part)

/-- The headers as texts, with their names in small letters. -/
def fields : List (String × String) :=
  p.headers.map fun h => (Text.lower (Text.latin1Decode h.1), Text.latin1Decode h.2)

/-- The value of a header; the last one of a name counts. -/
def header? (name : String) : Option String := (Assoc.values name p.fields).getLast?

/-- A parameter of the header that says what the part is. -/
def parameter? (name : String) : Option String :=
  Assoc.get? name (reader.parameters ((p.header? "content-disposition").getD ""))

/-- Whether the names that the part gives are texts. -/
def isReadable : Bool :=
  ["name", "filename"].all fun name =>
    (p.parameter? reader name).all fun raw => (Collector.parameterText? raw).isSome

/-- The name of what the part says. -/
def name? : Option String := (p.parameter? reader "name").bind Collector.parameterText?

/-- Something that is said under the name of the part; nothing is when it has none. -/
def under {α : Type} (said : Option α) : Option (String × α) :=
  (p.name? reader).bind fun name => said.map fun value => (name, value)

/-- The text field that the part is: it has no file name. -/
def text? : Option (String × String) :=
  p.under reader (if (p.parameter? reader "filename").isNone then some (Text.utf8DecodeLossy p.data) else none)

/-- The file that the part is: it has a file name. -/
def upload? : Option (String × Upload) :=
  p.under reader (((p.parameter? reader "filename").bind Collector.parameterText?).map fun file =>
    ⟨file, (p.header? "content-type").getD "application/octet-stream", p.data⟩)

end Part

/-! ## Forms -/

section

variable (reader : Reader) (parts : List Part)

/-- The form of some parts. -/
def form : List (String × Value) :=
  Assoc.update ((group id (parts.filterMap (Part.text? reader))).map fun e => (e.1, Value.collapse e.2))
    ((Assoc.ofList (parts.filterMap (Part.upload? reader))).map fun e => (e.1, .upload e.2))

/-- What a form has under a name: the last upload, else the single text or all texts, in order. -/
def formEntry (name : String) : Option Value :=
  match (Assoc.values name (parts.filterMap (Part.upload? reader))).getLast? with
  | some upload => some (.upload upload)
  | none =>
    match Assoc.values name (parts.filterMap (Part.text? reader)) with
    | [] => none
    | [text] => some (.str text)
    | texts => some (.ofTexts texts)

/-- **What the form of some parts has under a name.** -/
theorem get?_form (name : String) : Assoc.get? name (form reader parts) = formEntry reader parts name := by
  have htexts := get?_group id (parts.filterMap (Part.text? reader)) name
  simp only [id, List.map_id'] at htexts
  rw [form, Assoc.get?_update_eq, Assoc.values_map, List.getLast?_map, Assoc.getLast?_values_ofList, Assoc.get?_map_snd,
    htexts, formEntry]
  cases (Assoc.values name (parts.filterMap (Part.upload? reader))).getLast? with
  | some upload => rfl
  | none =>
    match Assoc.values name (parts.filterMap (Part.text? reader)) with
    | [] => rfl
    | [_] => rfl
    | _ :: _ :: _ => rfl

/-- The names of a form differ. -/
theorem nodup_form : ((form reader parts).map Prod.fst).Nodup := by
  apply Assoc.nodup_keys_update
  rw [List.map_map]
  exact nodup_group id _

end

/-! ## Collecting pieces -/

namespace Collector

variable {reader : Reader}

/-- Nothing of a header is left between two of them. -/
structure AtRest (c : Collector) : Prop where
  field : c.field = []
  value : c.value = []

theorem run_append (c : Collector) (front back : List PartEvent) :
    c.run reader (front ++ back) = (c.run reader front).bind fun c' => c'.run reader back := by
  induction front generalizing c with
  | nil => rfl
  | cons e front ih =>
    rw [List.cons_append, run, run]
    cases c.step reader e with
    | none => rfl
    | some c' => exact ih c'

theorem run_headerField (c : Collector) (pieces : List Bytes) :
    c.run reader (pieces.map .headerField) = some { c with field := c.field ++ pieces.flatten } := by
  induction pieces generalizing c with
  | nil => simp [run]
  | cons piece pieces ih => simp [run, step, ih]

theorem run_headerValue (c : Collector) (pieces : List Bytes) :
    c.run reader (pieces.map .headerValue) = some { c with value := c.value ++ pieces.flatten } := by
  induction pieces generalizing c with
  | nil => simp [run]
  | cons piece pieces ih => simp [run, step, ih]

theorem run_partData (c : Collector) (pieces : List Bytes) :
    c.run reader (pieces.map .partData) = some { c with data := c.data ++ pieces.flatten } := by
  induction pieces generalizing c with
  | nil => simp [run]
  | cons piece pieces ih => simp [run, step, ih]

/-- A header is put together and kept, and nothing of it is left over. -/
theorem run_headerReports {c : Collector} (h : c.AtRest) (header : List Bytes × List Bytes) :
    c.run reader (headerReports header) = some { c with
      headers := Assoc.set (Text.lower (Text.latin1Decode header.1.flatten)) (Text.latin1Decode header.2.flatten)
        c.headers } := by
  rw [headerReports, run_append, run_append, run_headerField, Option.bind_some, run_headerValue, Option.bind_some, run,
    step, Option.bind_some, run]
  simp [h.field, h.value]

/-- Headers are kept by their names, in order. -/
theorem run_headers {c : Collector} (h : c.AtRest) (headers : List (List Bytes × List Bytes)) (data : List Bytes) :
    c.run reader (headers.flatMap headerReports) =
      some { c with headers := Assoc.update c.headers (CutPart.part ⟨headers, data⟩).fields } := by
  induction headers generalizing c with
  | nil => rfl
  | cons header headers ih =>
    rw [List.flatMap_cons, run_append, run_headerReports h, Option.bind_some]
    exact ih ⟨h.field, h.value⟩

/-- What a part adds to what was collected. -/
def add (reader : Reader) (c : Collector) (p : Part) : Collector :=
  { c with
    fields := ((p.text? reader).map fun e => Assoc.push e.1 e.2 c.fields).getD c.fields
    files := ((p.upload? reader).map fun e => Assoc.set e.1 e.2 c.files).getD c.files }

/-- A part that was put together is ended by adding what it says. -/
theorem finishPart_eq {c : Collector} {p : Part} (hheaders : c.headers = Assoc.ofList p.fields) (hdata : c.data = p.data)
    (hreadable : p.isReadable reader = true) : c.finishPart reader = some (c.add reader p) := by
  have hheader : ∀ name, Assoc.get? name c.headers = p.header? name := by
    intro name
    rw [hheaders, Assoc.ofList, Assoc.get?_update_eq, Assoc.get?, Option.or_none, Part.header?]
  have htext : ∀ name ∈ ["name", "filename"], ∀ raw, p.parameter? reader name = some raw →
      ∃ text, parameterText? raw = some text := by
    intro name hname raw hraw
    have hall := List.all_eq_true.mp hreadable name hname
    rw [hraw, Option.all_some] at hall
    exact Option.isSome_iff_exists.mp hall
  have hparameter : ∀ name, Assoc.get? name (reader.parameters ((p.header? "content-disposition").getD "")) =
      p.parameter? reader name := fun _ => rfl
  simp only [finishPart, hheader, hparameter]
  cases hname : p.parameter? reader "name" with
  | none => simp [add, Part.text?, Part.upload?, Part.under, Part.name?, hname]
  | some rawName =>
    obtain ⟨name, hrawName⟩ := htext "name" (by simp) rawName hname
    cases hfile : p.parameter? reader "filename" with
    | none => simp [add, Part.text?, Part.upload?, Part.under, Part.name?, hname, hfile, hrawName, hdata]
    | some rawFile =>
      obtain ⟨file, hrawFile⟩ := htext "filename" (by simp) rawFile hfile
      simp [add, Part.text?, Part.upload?, Part.under, Part.name?, hname, hfile, hrawName, hrawFile, hdata]

/-- **Step lemma**: a part adds what it says to what was collected, and leaves nothing to the parts behind it. -/
theorem run_reports {c : Collector} (h : c.AtRest) {p : CutPart} (hreadable : p.part.isReadable reader = true) :
    ∃ next, c.run reader p.reports = some next ∧ next.AtRest ∧
      next.fields = (c.add reader p.part).fields ∧ next.files = (c.add reader p.part).files := by
  -- whatever part came before, its headers and its data are forgotten at the beginning
  let begun : Collector := { c with headers := [], data := [] }
  let read : Collector := { begun with headers := Assoc.ofList p.part.fields, data := p.part.data }
  have hbegun : begun.AtRest := ⟨h.field, h.value⟩
  have hread : c.run reader p.reports = read.finishPart reader := by
    calc c.run reader p.reports
        = begun.run reader (p.headers.flatMap headerReports ++ p.data.map .partData ++ [.partEnd]) := rfl
      _ = read.run reader [.partEnd] := by
        rw [run_append, run_append, run_headers hbegun p.headers p.data, Option.bind_some, run_partData, Option.bind_some]
        rfl
      _ = read.finishPart reader := by simp [run, step]
  refine ⟨read.add reader p.part, ?_, ⟨h.field, h.value⟩, rfl, rfl⟩
  rw [hread, finishPart_eq rfl rfl hreadable]

/-- **Run lemma**: parts add what they say, one after another. -/
theorem run_parts {c : Collector} (h : c.AtRest) {cut : List CutPart}
    (hreadable : ∀ p ∈ cut, p.part.isReadable reader = true) :
    ∃ last, c.run reader (cut.flatMap CutPart.reports) = some last ∧
      last.fields = ((cut.map CutPart.part).filterMap (Part.text? reader)).foldl
        (fun m e => Assoc.push e.1 e.2 m) c.fields ∧
      last.files = Assoc.update c.files ((cut.map CutPart.part).filterMap (Part.upload? reader)) := by
  induction cut generalizing c with
  | nil => exact ⟨c, rfl, rfl, rfl⟩
  | cons p cut ih =>
    obtain ⟨next, hnext, hrest, hfields, hfiles⟩ := run_reports h (hreadable p (by simp))
    obtain ⟨last, hlast, hfields', hfiles'⟩ := ih hrest fun q hq => hreadable q (by simp [hq])
    refine ⟨last, ?_, ?_, ?_⟩
    · rw [List.flatMap_cons, run_append, hnext, Option.bind_some, hlast]
    · rw [hfields', hfields, add, List.map_cons, List.filterMap_cons]
      cases p.part.text? reader <;> rfl
    · rw [hfiles', hfiles, add, List.map_cons, List.filterMap_cons]
      cases p.part.upload? reader <;> rfl

end Collector

/-! ## All together -/

section

variable (reader : Reader)

/-- What is said under a name is said by the parts of that name. -/
theorem values_filterMap_under {α : Type} (said : Part → Option α) (parts : List Part) (name : String) :
    Assoc.values name ((parts.filter fun p => p.name? reader == some name).filterMap fun p => p.under reader (said p)) =
      Assoc.values name (parts.filterMap fun p => p.under reader (said p)) := by
  induction parts with
  | nil => rfl
  | cons p parts ih =>
    rw [List.filter_cons]
    cases hunder : p.under reader (said p) with
    | none => split <;> simp [hunder, ih]
    | some e =>
      have hown : p.name? reader = some e.1 := by
        obtain ⟨own, hown, hvalue⟩ := Option.bind_eq_some_iff.mp hunder
        obtain ⟨value, -, rfl⟩ := Option.map_eq_some_iff.mp hvalue
        exact hown
      rw [hown]
      by_cases hname : e.1 = name
      · simp only [hname, BEq.rfl, if_true, List.filterMap_cons, hunder]
        simpa [Assoc.values, hname] using ih
      · simpa [Assoc.values, hname, hunder] using ih

/-- **What a form has under a name is what the parts of that name say.** -/
theorem formEntry_filter (parts : List Part) (name : String) :
    formEntry reader (parts.filter fun p => p.name? reader == some name) name = formEntry reader parts name := by
  let mine := parts.filter fun p => p.name? reader == some name
  have htexts : Assoc.values name (mine.filterMap (Part.text? reader)) =
      Assoc.values name (parts.filterMap (Part.text? reader)) := values_filterMap_under reader _ parts name
  have huploads : Assoc.values name (mine.filterMap (Part.upload? reader)) =
      Assoc.values name (parts.filterMap (Part.upload? reader)) := values_filterMap_under reader _ parts name
  show formEntry reader mine name = formEntry reader parts name
  rw [formEntry, formEntry, htexts, huploads]

/-- **Forms are made of their parts.** When a reader reports a body as some parts whose names are texts, in whatever
pieces, the form of the body is that of the parts. Its names differ, and under a name it has the last upload of that
name, with the data and the content type of its own part; else the text of that name, or all of them in order when
there are several; else nothing. Parts that have other names, or none, make no difference to it. -/
theorem forms_are_made_of_parts {body boundary : Bytes} {contentType : String} {cut : List CutPart}
    (hboundary : reader.boundary? contentType = some boundary)
    (hreports : reader.events boundary body = .ok (some (cut.flatMap CutPart.reports)))
    (hreadable : ∀ p ∈ cut, p.part.isReadable reader = true) :
    let parts := cut.map CutPart.part
    reader.parse body contentType = .ok (.ofFields (form reader parts)) ∧
      ((form reader parts).map Prod.fst).Nodup ∧
      ∀ name, Assoc.get? name (form reader parts) = formEntry reader parts name ∧
        formEntry reader (parts.filter fun p => p.name? reader == some name) name = formEntry reader parts name := by
  intro parts
  refine ⟨?_, nodup_form reader parts,
    fun name => ⟨get?_form reader parts name, formEntry_filter reader parts name⟩⟩
  obtain ⟨last, hlast, hfields, hfiles⟩ := Collector.run_parts (c := {}) ⟨rfl, rfl⟩ hreadable
  have hparsed : reader.parse body contentType = .ok last.form := by
    rw [Reader.parse, hboundary]
    simp only [hreports, bind, Except.bind, Option.bind_some, hlast]
  rw [hparsed, Collector.form, hfields, hfiles]
  rfl

end

/-! ### A title and a cover -/

/-- The bytes of a text that has no others than ASCII. -/
def asciiBytes (s : String) : Bytes := s.toList.map fun c => UInt8.ofNat c.toNat

/-- A text field, and then a file with a content type, under names that are spelled in different ways. -/
def titleAndCover : List CutPart :=
  [⟨[([asciiBytes "Content-Disposition"], [asciiBytes "form-data; name=\"title\""])], [asciiBytes "Iliad"]⟩,
    ⟨[([asciiBytes "content-disposition"], [asciiBytes "form-data; name=\"cover\"; filename=\"a.txt\""]),
      ([asciiBytes "Content-TYPE"], [asciiBytes "text/plain"])], [asciiBytes "ships"]⟩]

/-- The body in which a browser sends them. -/
def titleAndCoverBody : Bytes :=
  asciiBytes ("--x\r\nContent-Disposition: form-data; name=\"title\"\r\n\r\nIliad\r\n" ++
    "--x\r\ncontent-disposition: form-data; name=\"cover\"; filename=\"a.txt\"\r\nContent-TYPE: text/plain\r\n\r\n" ++
    "ships\r\n--x--\r\n")

/-- The form has both of them. -/
theorem forms_are_made_of_parts_cover :
    parse titleAndCoverBody "multipart/form-data; boundary=x" =
      .ok (.ofFields [("title", .str "Iliad"), ("cover", .upload ⟨"a.txt", "text/plain", asciiBytes "ships"⟩)]) := by
  have hboundary : Reader.standard.boundary? "multipart/form-data; boundary=x" = some (asciiBytes "x") := by
    decide +kernel
  have hevents : partEvents (asciiBytes "x") titleAndCoverBody = some (titleAndCover.flatMap CutPart.reports) := by
    decide +kernel
  have hreports : Reader.standard.events (asciiBytes "x") titleAndCoverBody =
      .ok (some (titleAndCover.flatMap CutPart.reports)) := by
    rw [← hevents]
    rfl
  have hreadable : ∀ p ∈ titleAndCover, p.part.isReadable Reader.standard = true := by decide +kernel
  have htexts : (titleAndCover.map CutPart.part).filterMap (Part.text? Reader.standard) = [("title", "Iliad")] := by
    decide +kernel
  have huploads : (titleAndCover.map CutPart.part).filterMap (Part.upload? Reader.standard) =
      [("cover", ⟨"a.txt", "text/plain", asciiBytes "ships"⟩)] := by
    decide +kernel
  have hparts := (forms_are_made_of_parts Reader.standard hboundary hreports hreadable).1
  rw [parse, hparts, form, htexts, huploads]
  rfl

end ServerTree.Multipart
