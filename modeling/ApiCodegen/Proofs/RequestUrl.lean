import ApiCodegen.Proofs.Emission
import ApiCodegen.Proofs.Signatures
import Mathlib.Data.List.Induction

/-!
# The URL of a request

The first line of a client method makes the URL by a call of `format!`. Its literal copies the route
outside the placeholders as it is and has a hole for each placeholder. The call gives the URL of the
route exactly if no brace stands outside the placeholders and every placeholder is a parameter;
validation sees to the latter for the endpoint alone and to the former not at all.
-/

namespace ApiCodegen.Proofs

/-! ### Format strings -/

/-- A part of a format string. -/
inductive FormatPart where
  | char (c : Char)
  | hole
deriving DecidableEq, Repr

def isBrace (c : Char) : Bool := c == '\x7b' || c == '\x7d'

/-- Reads a format string: a doubled brace is an escape, a pair of braces a hole, and any other
brace an error. -/
def readFormat : List Char → Option (List FormatPart)
  | [] => some []
  | '\x7b' :: '\x7b' :: cs => (readFormat cs).map (.char '\x7b' :: ·)
  | '\x7b' :: '\x7d' :: cs => (readFormat cs).map (.hole :: ·)
  | '\x7d' :: '\x7d' :: cs => (readFormat cs).map (.char '\x7d' :: ·)
  | c :: cs => if isBrace c then none else (readFormat cs).map (.char c :: ·)

namespace FormatPart

def holes (parts : List FormatPart) : Nat := parts.count .hole

/-- The text of a format string whose holes are filled in order. -/
def fill : List FormatPart → List (List Char) → List Char
  | [], _ => []
  | .char c :: parts, values => c :: fill parts values
  | .hole :: parts, values => values.headD [] ++ fill parts values.tail

/-- The characters between the holes. -/
def chars (parts : List FormatPart) : List Char :=
  parts.filterMap fun
    | .char c => some c
    | .hole => none

@[simp] lemma chars_char (c : Char) (parts : List FormatPart) :
    chars (.char c :: parts) = c :: chars parts := rfl

@[simp] lemma chars_hole (parts : List FormatPart) : chars (.hole :: parts) = chars parts := rfl

@[simp] lemma holes_char (c : Char) (parts : List FormatPart) :
    holes (.char c :: parts) = holes parts := by
  simp [holes]

@[simp] lemma holes_hole (parts : List FormatPart) :
    holes (.hole :: parts) = holes parts + 1 := by
  simp [holes]

lemma fill_eq_chars {parts : List FormatPart} {values : List (List Char)}
    (h : ∀ value ∈ values, value = []) : fill parts values = chars parts := by
  induction parts generalizing values with
  | nil => rfl
  | cons part parts ih =>
    cases part with
    | char c => rw [fill, chars_char, ih h]
    | hole =>
      have hhead : values.headD [] = [] := by
        cases values with
        | nil => rfl
        | cons value values => exact h value List.mem_cons_self
      rw [fill, hhead, List.nil_append, chars_hole]
      exact ih fun value hvalue => h value (List.mem_of_mem_tail hvalue)

end FormatPart

open FormatPart

lemma readFormat_cons {c : Char} {cs : List Char} (hc : isBrace c = false) :
    readFormat (c :: cs) = (readFormat cs).map (.char c :: ·) := by
  rw [readFormat]
  · rw [hc, if_neg Bool.false_ne_true]
  all_goals
    rintro _ rfl
    simp [isBrace] at hc

/-- Text without braces stands for itself. -/
lemma readFormat_append {cs : List Char} (hcs : ∀ c ∈ cs, isBrace c = false) (ds : List Char) :
    readFormat (cs ++ ds) = (readFormat ds).map (cs.map .char ++ ·) := by
  induction cs with
  | nil => simp
  | cons c cs ih =>
    rw [List.forall_mem_cons] at hcs
    rw [List.cons_append, readFormat_cons hcs.1, ih hcs.2, Option.map_map]
    rfl

/-- A hole takes two characters of the literal and so does a brace that is read; any other character
takes one. -/
lemma length_of_readFormat {cs : List Char} {parts : List FormatPart}
    (h : readFormat cs = some parts) :
    cs.length = (chars parts).length + (chars parts).countP isBrace + 2 * holes parts := by
  have hopen : isBrace '\x7b' = true := rfl
  have hclose : isBrace '\x7d' = true := rfl
  induction cs using readFormat.induct generalizing parts with
  | case1 =>
    obtain rfl := Option.some.inj h
    rfl
  | case2 cs ih | case4 cs ih =>
    rw [readFormat] at h
    obtain ⟨rest, hrest, rfl⟩ := Option.map_eq_some_iff.1 h
    have := ih hrest
    simp only [chars_char, holes_char, List.length_cons, List.countP_cons, hopen, hclose, if_true]
    omega
  | case3 cs ih =>
    rw [readFormat] at h
    obtain ⟨rest, hrest, rfl⟩ := Option.map_eq_some_iff.1 h
    have := ih hrest
    simp only [chars_hole, holes_hole, List.length_cons]
    omega
  | case5 c cs h1 h2 h3 hbrace =>
    rw [readFormat, if_pos hbrace] at h
    · cases h
    all_goals assumption
  | case6 c cs h1 h2 h3 hbrace ih =>
    rw [readFormat_cons (Bool.eq_false_iff.2 hbrace)] at h
    obtain ⟨rest, hrest, rfl⟩ := Option.map_eq_some_iff.1 h
    have := ih hrest
    simp only [chars_char, holes_char, List.length_cons, List.countP_cons, hbrace,
      Bool.false_eq_true, if_false]
    omega

lemma readFormat_close {d : Char} {cs : List Char} (hd : d ≠ '\x7d') :
    readFormat ('\x7d' :: d :: cs) = none := by
  rw [readFormat]
  · rfl
  · rintro _ h
    cases h
  · rintro _ h
    cases h
  · rintro _ - h
    exact hd (List.cons.inj h).1

lemma isBrace_iff {c : Char} : isBrace c = true ↔ c = '\x7b' ∨ c = '\x7d' := by
  simp [isBrace]

/-- After text without an open brace, a pair of braces is read as a hole: nothing before it takes
one of the two into an escape. -/
lemma holes_lt_of_readFormat {before cs : List Char} {parts : List FormatPart}
    (hbefore : '\x7b' ∉ before) (h : readFormat (before ++ '\x7b' :: '\x7d' :: cs) = some parts) :
    ∃ rest, readFormat cs = some rest ∧ holes rest < holes parts := by
  induction before using List.twoStepInduction generalizing parts with
  | nil =>
    rw [List.nil_append, readFormat] at h
    obtain ⟨rest, hrest, rfl⟩ := Option.map_eq_some_iff.1 h
    refine ⟨rest, hrest, ?_⟩
    rw [holes_hole]
    exact Nat.lt_succ_self _
  | singleton c =>
    have hopen : c ≠ '\x7b' := fun heq => hbefore (by simp [heq])
    cases hc : isBrace c with
    | true =>
      obtain rfl := (isBrace_iff.1 hc).resolve_left hopen
      rw [List.singleton_append, readFormat_close (by decide)] at h
      cases h
    | false =>
      rw [List.singleton_append, readFormat_cons hc, readFormat] at h
      obtain ⟨all, hall, rfl⟩ := Option.map_eq_some_iff.1 h
      obtain ⟨rest, hrest, rfl⟩ := Option.map_eq_some_iff.1 hall
      refine ⟨rest, hrest, ?_⟩
      rw [holes_char, holes_hole]
      exact Nat.lt_succ_self _
  | cons_cons c d before ihpair ihrest =>
    have hopen : c ≠ '\x7b' := fun heq => hbefore (by simp [heq])
    have hrest : '\x7b' ∉ d :: before := fun hmem => hbefore (List.mem_cons_of_mem c hmem)
    rw [List.cons_append] at h
    cases hc : isBrace c with
    | true =>
      obtain rfl := (isBrace_iff.1 hc).resolve_left hopen
      by_cases hd : d = '\x7d'
      · subst hd
        rw [List.cons_append, readFormat] at h
        obtain ⟨inner, hinner, rfl⟩ := Option.map_eq_some_iff.1 h
        rw [holes_char]
        exact ihpair (fun hmem => hrest (List.mem_cons_of_mem _ hmem)) hinner
      · rw [List.cons_append, readFormat_close hd] at h
        cases h
    | false =>
      rw [readFormat_cons hc] at h
      obtain ⟨inner, hinner, rfl⟩ := Option.map_eq_some_iff.1 h
      rw [holes_char]
      exact ihrest d hrest hinner

/-! ### Routes -/

/-- The text of a route with every placeholder replaced by the value of its parameter. `inside`
holds the characters after an open brace, last first; a brace that is never closed is text. -/
def substitute (value : String → List Char) (inside : Option (List Char)) : List Char → List Char
  | [] => (inside.map fun seen => '\x7b' :: seen.reverse).getD []
  | c :: cs =>
    match inside with
    | none => if c = '\x7b' then substitute value (some []) cs else c :: substitute value none cs
    | some seen =>
      if c = '\x7d' then value (String.ofList seen.reverse) ++ substitute value none cs
      else substitute value (some (c :: seen)) cs

/-- The text of a route without its placeholders. -/
def outside (route : String) : List Char := substitute (fun _ => []) none route.toList

/-- The names between braces in a route. -/
def placeholders (route : String) : List String := scanPlaceholders none route.toList

section Cuts

variable {mark : Char} {cs before rest : List Char}

lemma cutAt?_eq_some (h : UrlTemplate.cutAt? mark cs = some (before, rest)) :
    cs = before ++ mark :: rest ∧ mark ∉ before := by
  induction cs generalizing before with
  | nil => cases h
  | cons c cs ih =>
    rw [UrlTemplate.cutAt?] at h
    split at h
    · rename_i hc
      cases h
      exact ⟨by rw [hc, List.nil_append], List.not_mem_nil⟩
    · rename_i hc
      obtain ⟨⟨first, last⟩, hcut, heq⟩ := Option.map_eq_some_iff.1 h
      cases heq
      obtain ⟨htext, hmark⟩ := ih hcut
      refine ⟨by rw [htext, List.cons_append], ?_⟩
      rw [List.mem_cons, not_or]
      exact ⟨fun heq => hc heq.symm, hmark⟩

lemma cutAt?_eq_none (h : UrlTemplate.cutAt? mark cs = none) : mark ∉ cs := by
  induction cs with
  | nil => exact List.not_mem_nil
  | cons c cs ih =>
    rw [UrlTemplate.cutAt?] at h
    split at h
    · cases h
    · rename_i hc
      rw [List.mem_cons, not_or]
      exact ⟨fun heq => hc heq.symm, ih (Option.map_eq_none_iff.1 h)⟩

end Cuts

section Scanners

variable {text : List Char}

lemma scanPlaceholders_outside (h : '\x7b' ∉ text) (cs : List Char) :
    scanPlaceholders none (text ++ cs) = scanPlaceholders none cs := by
  induction text with
  | nil => rfl
  | cons c text ih =>
    rw [List.mem_cons, not_or] at h
    rw [List.cons_append, scanPlaceholders, if_neg fun heq => h.1 heq.symm, ih h.2]

lemma substitute_outside (value : String → List Char) (h : '\x7b' ∉ text) (cs : List Char) :
    substitute value none (text ++ cs) = text ++ substitute value none cs := by
  induction text with
  | nil => rfl
  | cons c text ih =>
    rw [List.mem_cons, not_or] at h
    simp only [List.cons_append, substitute]
    rw [if_neg fun heq => h.1 heq.symm, ih h.2]

lemma scanPlaceholders_inside (h : '\x7d' ∉ text) (seen cs : List Char) :
    scanPlaceholders (some seen) (text ++ cs) =
      scanPlaceholders (some (text.reverse ++ seen)) cs := by
  induction text generalizing seen with
  | nil => rfl
  | cons c text ih =>
    rw [List.mem_cons, not_or] at h
    simp only [List.cons_append, scanPlaceholders]
    rw [if_neg fun heq => h.1 heq.symm, ih h.2 _, List.reverse_cons, List.append_assoc,
      List.singleton_append]

lemma substitute_inside (value : String → List Char) (h : '\x7d' ∉ text)
    (seen cs : List Char) :
    substitute value (some seen) (text ++ cs) =
      substitute value (some (text.reverse ++ seen)) cs := by
  induction text generalizing seen with
  | nil => rfl
  | cons c text ih =>
    rw [List.mem_cons, not_or] at h
    simp only [List.cons_append, substitute]
    rw [if_neg fun heq => h.1 heq.symm, ih h.2 _, List.reverse_cons, List.append_assoc,
      List.singleton_append]

end Scanners

section Scan

variable {cs before inside name rest : List Char}

lemma scan_unopened (hopen : UrlTemplate.cutAt? '\x7b' cs = none) :
    UrlTemplate.scan cs = ⟨[], String.ofList cs⟩ := by
  rw [UrlTemplate.scan]
  split
  · rfl
  · simp_all

lemma scan_unclosed (hopen : UrlTemplate.cutAt? '\x7b' cs = some (before, inside))
    (hclose : UrlTemplate.cutAt? '\x7d' inside = none) :
    UrlTemplate.scan cs = ⟨[], String.ofList cs⟩ := by
  rw [UrlTemplate.scan]
  split
  · rfl
  · split
    · rfl
    · simp_all

lemma scan_closed (hopen : UrlTemplate.cutAt? '\x7b' cs = some (before, inside))
    (hclose : UrlTemplate.cutAt? '\x7d' inside = some (name, rest)) :
    UrlTemplate.scan cs = ⟨(String.ofList before, String.ofList name) ::
      (UrlTemplate.scan rest).parts, (UrlTemplate.scan rest).rest⟩ := by
  rw [UrlTemplate.scan]
  split
  · simp_all
  · split
    · simp_all
    · simp_all

end Scan

/-- A route cut at its placeholders: the names of both scanners are the same, and the parts are the
text around the values. -/
structure Cut (t : UrlTemplate) (cs : List Char) : Prop where
  names : t.names = scanPlaceholders none cs
  text : ∀ value : String → List Char, substitute value none cs =
    t.parts.flatMap (fun part => part.1.toList ++ value part.2) ++ t.rest.toList
  before : ∀ part ∈ t.parts, '\x7b' ∉ part.1.toList

lemma cut_text {cs : List Char} (hnames : scanPlaceholders none cs = [])
    (htext : ∀ value, substitute value none cs = cs) : Cut ⟨[], String.ofList cs⟩ cs := by
  refine ⟨hnames.symm, fun value => ?_, fun part hpart => absurd hpart List.not_mem_nil⟩
  rw [htext value, List.flatMap_nil, List.nil_append, String.toList_ofList]

theorem cut_scan (cs : List Char) : Cut (UrlTemplate.scan cs) cs := by
  induction cs using UrlTemplate.scan.induct with
  | case1 cs hopen =>
    have hplain := cutAt?_eq_none hopen
    rw [scan_unopened hopen]
    apply cut_text
    · simpa [scanPlaceholders] using scanPlaceholders_outside hplain []
    · intro value
      simpa [substitute] using substitute_outside value hplain []
  | case2 cs before inside hopen hclose =>
    obtain ⟨htext, hbefore⟩ := cutAt?_eq_some hopen
    have hinside := cutAt?_eq_none hclose
    rw [scan_unclosed hopen hclose, htext]
    apply cut_text
    · rw [scanPlaceholders_outside hbefore]
      have hnames := scanPlaceholders_inside hinside [] []
      simpa [scanPlaceholders] using hnames
    · intro value
      rw [substitute_outside value hbefore]
      have hsame := substitute_inside value hinside [] []
      simpa [substitute] using hsame
  | case3 cs before inside hopen name rest hclose ih =>
    obtain ⟨htext, hbefore⟩ := cutAt?_eq_some hopen
    obtain ⟨hinner, hname⟩ := cutAt?_eq_some hclose
    rw [scan_closed hopen hclose, htext, hinner]
    constructor
    · rw [scanPlaceholders_outside hbefore]
      have hnames := scanPlaceholders_inside hname [] ('\x7d' :: rest)
      simp [scanPlaceholders, hnames, UrlTemplate.names, ← ih.names]
    · intro value
      rw [substitute_outside value hbefore]
      have hsame := substitute_inside value hname [] ('\x7d' :: rest)
      simp [substitute, hsame, ih.text value]
    · intro part hpart
      rcases List.mem_cons.1 hpart with rfl | hpart
      · simpa using hbefore
      · exact ih.before part hpart

/-! ### The call -/

/-- A call of `format!` with the base of all URLs and some parameters as arguments. -/
structure UrlCall where
  literal : String
  codecs : List ParamCodec

namespace UrlCall

/-- The statement with the call. -/
def render (c : UrlCall) : String :=
  let arguments := "self.base_url" :: c.codecs.map fun p => Line.render p.urlArgument
  "let request_url = format!(" ++ Text.quote c.literal ++
    String.join (arguments.map (", " ++ ·)) ++ ");"

/-- The call is accepted and gives the URL of a route: one argument follows the base for each
placeholder, the literal is a format string with a hole for each argument, and filling the holes
replaces the placeholders by the values of the parameters. -/
structure Gives (c : UrlCall) (route : String) : Prop where
  arguments : c.codecs.map (·.param.name) = placeholders route
  filled : ∃ parts, readFormat c.literal.toList = some parts ∧
    holes parts = c.codecs.length + 1 ∧
    ∀ (base : List Char) (value : String → List Char),
      fill parts (base :: c.codecs.map fun p => value p.param.name) =
        base ++ substitute value none route.toList

/-- The call that a client method writes for a route. -/
def ofRoute (route : String) (codecs : List ParamCodec) : UrlCall :=
  let template := UrlTemplate.ofString route
  ⟨"\x7b\x7d" ++ template.format, template.arguments codecs⟩

end UrlCall

/-- No brace stands outside the placeholders. -/
def Balanced (route : String) : Prop := ∀ c ∈ outside route, isBrace c = false

instance (route : String) : Decidable (Balanced route) :=
  decidable_of_iff ((outside route).all (!isBrace ·) = true) (by simp [Balanced])

lemma render_arguments (codecs : List ParamCodec) :
    Line.render (codecs.flatMap fun c => .text ", " :: c.urlArgument) =
      String.join (codecs.map fun c => ", " ++ c.urlArgument.render) := by
  induction codecs with
  | nil => rfl
  | cons c codecs ih =>
    simp only [Line.render] at ih
    simp [Line.render, Piece.render, String.join_append, ih, String.append_assoc]

lemma render_urlLine (route : String) (codecs : List ParamCodec) :
    (ClientMethod.urlLine route codecs).render = (UrlCall.ofRoute route codecs).render := by
  have harguments := render_arguments ((UrlTemplate.ofString route).arguments codecs)
  have hstart : "let " ++ "request_url" ++ " = format!(" = "let request_url = format!(" := rfl
  have hbase : ", " ++ "self.base_url" = ", self.base_url" := rfl
  unfold Line.render at harguments
  unfold ClientMethod.urlLine UrlCall.ofRoute UrlCall.render Line.render
  rw [List.map_append, List.map_append, String.join_append, String.join_append, harguments]
  simp only [Piece.newLocal, List.map_cons, List.map_nil, List.map_map, Function.comp_def,
    Piece.render, String.join_cons, String.join_nil, String.append_empty, ← String.append_assoc]
  rw [hstart, ← hbase, ← String.append_assoc]

lemma toList_format (t : UrlTemplate) : t.format.toList =
    t.parts.flatMap (fun part => part.1.toList ++ ['\x7b', '\x7d']) ++ t.rest.toList := by
  simp [UrlTemplate.format, List.flatMap_map]

/-! ### Reading the literal -/

section Template

variable {parts : List (String × String)} {rest : List Char}

/-- The literal of a template without stray braces is read part by part. -/
lemma readFormat_template (hparts : ∀ part ∈ parts, ∀ c ∈ part.1.toList, isBrace c = false)
    (hrest : ∀ c ∈ rest, isBrace c = false) :
    readFormat (parts.flatMap (fun part => part.1.toList ++ ['\x7b', '\x7d']) ++ rest) =
      some (parts.flatMap (fun part => part.1.toList.map .char ++ [.hole]) ++ rest.map .char) := by
  induction parts with
  | nil =>
    have hread := readFormat_append hrest []
    simpa [readFormat] using hread
  | cons part parts ih =>
    rw [List.forall_mem_cons] at hparts
    simp only [List.flatMap_cons, List.append_assoc]
    rw [readFormat_append hparts.1, List.cons_append, List.cons_append, List.nil_append, readFormat,
      ih hparts.2]
    rfl

lemma fill_char_append (cs : List Char) (more : List FormatPart) (values : List (List Char)) :
    fill (cs.map .char ++ more) values = cs ++ fill more values := by
  induction cs with
  | nil => rfl
  | cons c cs ih => exact congrArg (c :: ·) ih

lemma fill_template (value : String → List Char) :
    fill (parts.flatMap (fun part => part.1.toList.map .char ++ [.hole]) ++ rest.map .char)
      (parts.map fun part => value part.2) =
        parts.flatMap (fun part => part.1.toList ++ value part.2) ++ rest := by
  induction parts with
  | nil => simpa [fill] using fill_char_append rest [] []
  | cons part parts ih =>
    simp only [List.flatMap_cons, List.append_assoc, List.map_cons]
    rw [fill_char_append, List.singleton_append, fill, List.headD_cons, List.tail_cons, ih]

lemma holes_template :
    holes (parts.flatMap (fun part => part.1.toList.map .char ++ [.hole]) ++ rest.map .char) =
      parts.length := by
  have hchars : ∀ cs : List Char, (cs.map FormatPart.char).count .hole = 0 := by
    intro cs
    simp [List.count_eq_zero]
  induction parts with
  | nil => exact hchars rest
  | cons part parts ih =>
    simp only [holes, List.flatMap_cons, List.append_assoc, List.count_append, hchars] at ih ⊢
    simp [ih, Nat.add_comm]

lemma length_template :
    (parts.flatMap (fun part => part.1.toList ++ ['\x7b', '\x7d']) ++ rest).length =
      (parts.flatMap (·.1.toList) ++ rest).length + 2 * parts.length := by
  induction parts with
  | nil => rfl
  | cons part parts ih =>
    simp only [List.flatMap_cons, List.length_append, List.length_cons, List.length_nil] at ih ⊢
    omega

/-- However the text around them is read, the holes of a template are read as holes. -/
lemma length_le_holes {read : List FormatPart} (hparts : ∀ part ∈ parts, '\x7b' ∉ part.1.toList)
    (h : readFormat (parts.flatMap (fun part => part.1.toList ++ ['\x7b', '\x7d']) ++ rest) =
      some read) : parts.length ≤ holes read := by
  induction parts generalizing read with
  | nil => exact Nat.zero_le _
  | cons part parts ih =>
    rw [List.forall_mem_cons] at hparts
    simp only [List.flatMap_cons, List.append_assoc, List.cons_append, List.nil_append] at h
    obtain ⟨later, hlater, hlt⟩ := holes_lt_of_readFormat hparts.1 h
    exact Nat.lt_of_le_of_lt (ih hparts.2 hlater) hlt

end Template

lemma arguments_values {t : UrlTemplate} {codecs : List ParamCodec}
    (hfound : ∀ name ∈ t.names, ∃ c ∈ codecs, c.param.name = name)
    {α : Type} (value : String → α) :
    (t.arguments codecs).map (fun c => value c.param.name) = t.names.map value := by
  unfold UrlTemplate.arguments
  generalize t.names = names at hfound
  induction names with
  | nil => rfl
  | cons name names ih =>
    rw [List.forall_mem_cons] at hfound
    obtain ⟨⟨c, hc, hname⟩, hnames⟩ := hfound
    cases hfind : codecs.find? (·.param.name == name) with
    | none =>
      have hnone := List.find?_eq_none.1 hfind c hc
      simp [hname] at hnone
    | some found =>
      have hfoundName := List.find?_some hfind
      rw [beq_iff_eq] at hfoundName
      simp only [List.filterMap_cons, hfind, List.map_cons, hfoundName, ih hnames]

/-- The call that is written for a route gives the URL exactly if no brace stands outside the
placeholders and each of them is a parameter. -/
theorem gives_ofRoute_iff (route : String) (codecs : List ParamCodec) :
    (UrlCall.ofRoute route codecs).Gives route ↔
      Balanced route ∧ ∀ name ∈ placeholders route, ∃ c ∈ codecs, c.param.name = name := by
  have hcut : Cut (UrlTemplate.ofString route) route.toList := cut_scan route.toList
  generalize ht : UrlTemplate.ofString route = t at hcut
  have hliteral : (UrlCall.ofRoute route codecs).literal.toList = '\x7b' :: '\x7d' ::
      (t.parts.flatMap (fun part => part.1.toList ++ ['\x7b', '\x7d']) ++ t.rest.toList) := by
    rw [← toList_format, ← ht]
    simp [UrlCall.ofRoute]
  have hcodecs : (UrlCall.ofRoute route codecs).codecs = t.arguments codecs := by
    rw [← ht]
    rfl
  have houtside : outside route = t.parts.flatMap (·.1.toList) ++ t.rest.toList := by
    have htext := hcut.text fun _ => []
    simp only [List.append_nil] at htext
    exact htext
  have hnames : placeholders route = t.names := hcut.names.symm
  have hlengths : t.names.length = t.parts.length := List.length_map ..
  constructor
  · rintro ⟨-, read, hread, hholes, hfill⟩
    rw [hliteral] at hread
    rw [hcodecs] at hholes
    have hchars : chars read = outside route := by
      have hempty := hfill [] fun _ => []
      rw [List.nil_append, fill_eq_chars (by simp)] at hempty
      exact hempty
    have hlength := length_of_readFormat hread
    have hmost : (t.arguments codecs).length ≤ t.names.length := List.length_filterMap_le ..
    have hleast : t.parts.length < holes read := by
      obtain ⟨later, hlater, hlt⟩ := holes_lt_of_readFormat List.not_mem_nil hread
      exact Nat.lt_of_le_of_lt (length_le_holes hcut.before hlater) hlt
    have hlength := length_of_readFormat hread
    rw [List.length_cons, List.length_cons, length_template, ← houtside, hchars] at hlength
    have hplain : (outside route).countP isBrace = 0 := by omega
    have hfull : (t.arguments codecs).length = t.names.length := by omega
    constructor
    · intro c hc
      simpa using List.countP_eq_zero.1 hplain c hc
    · intro name hname
      rw [hnames] at hname
      have hfind := List.filterMap_length_eq_length.1 hfull name hname
      obtain ⟨c, hc, hfound⟩ := List.find?_isSome.1 hfind
      exact ⟨c, hc, beq_iff_eq.1 hfound⟩
  · rintro ⟨hbalanced, hfound⟩
    rw [hnames] at hfound
    unfold Balanced at hbalanced
    rw [houtside, List.forall_mem_append] at hbalanced
    have hparts : ∀ part ∈ t.parts, ∀ c ∈ part.1.toList, isBrace c = false := by
      intro part hpart c hc
      exact hbalanced.1 c (List.mem_flatMap.2 ⟨part, hpart, hc⟩)
    constructor
    · rw [hcodecs, hnames, arguments_values hfound fun name => name, List.map_id']
    · rw [hliteral, hcodecs, readFormat, readFormat_template hparts hbalanced.2]
      refine ⟨_, rfl, ?_, fun base value => ?_⟩
      · have hlength := congrArg List.length (arguments_values hfound fun name => name)
        rw [List.length_map, List.length_map] at hlength
        rw [holes_hole, holes_template, hlength, hlengths]
      · rw [arguments_values hfound, fill, List.headD_cons, List.tail_cons, UrlTemplate.names,
          List.map_map, hcut.text value]
        exact congrArg (base ++ ·) (fill_template value)

/-! ### Methods of a client -/

/-- The route of an operation: the prefix of its version and its own template. -/
def routeOf (v : Version) (o : Operation) : String := v.urlPrefix ++ o.endpoint.url

/-- The method of an operation makes the URL in its first line, by a call that gives the URL of the
full route exactly if no brace stands outside the placeholders of the route and each of them is a
parameter of the URL. It does so if the prefix has no brace and none of the template stands outside
its placeholders. -/
def MakesUrl (v : Version) (o : Operation) (m : ClientMethod) : Prop :=
  ∃ call : UrlCall, m.body.lines.head?.map Line.render = some call.render ∧
    (call.Gives (routeOf v o) ↔ Balanced (routeOf v o) ∧
      ∀ name ∈ placeholders (routeOf v o), ∃ p ∈ o.endpoint.params, p.name = name) ∧
    ((∀ c ∈ v.urlPrefix.toList, isBrace c = false) → Balanced o.endpoint.url →
      call.Gives (routeOf v o))

lemma not_mem_of_plain {cs : List Char} (h : ∀ c ∈ cs, isBrace c = false) : '\x7b' ∉ cs :=
  fun hmem => Bool.noConfusion (h _ hmem)

lemma makesUrl_ofSignature {s : Scope} {naming : Naming} {v : Version} {o : Operation}
    {sig : Signature} {here : Location} (api : String) (errors : List ErrorVariant)
    (ho : OperationRules s naming o) (hsig : Signature.ofOperation s naming here o = .ok sig) :
    MakesUrl v o (.ofSignature naming v.urlPrefix api sig errors) := by
  have hbuilt := ofOperation_eq_ok_iff.1 hsig
  have hparam : ∀ name, (∃ c ∈ sig.url, c.param.name = name) ↔
      ∃ p ∈ o.endpoint.params, p.name = name := by
    intro name
    constructor
    · rintro ⟨c, hc, rfl⟩
      obtain ⟨p, hp, hofParam⟩ := exists_of_mem_mapM hbuilt.url hc
      obtain ⟨shape, type, -, -, rfl⟩ := ofParam_eq_ok_iff.1 hofParam
      exact ⟨p, hp, rfl⟩
    · rintro ⟨p, hp, rfl⟩
      obtain ⟨c, hc, hofParam⟩ := exists_mem_of_mapM hbuilt.url hp
      obtain ⟨shape, type, -, -, rfl⟩ := ofParam_eq_ok_iff.1 hofParam
      exact ⟨_, hc, rfl⟩
  have hgives := gives_ofRoute_iff (routeOf v o) sig.url
  simp only [hparam] at hgives
  refine ⟨.ofRoute (routeOf v o) sig.url, ?_, hgives, fun hplain hurl => hgives.2 ⟨?_, ?_⟩⟩
  · rw [← render_urlLine, routeOf, ← hbuilt.operation]
    rfl
  · intro c hc
    unfold outside routeOf at hc
    rw [String.toList_append, substitute_outside _ (not_mem_of_plain hplain)] at hc
    rcases List.mem_append.1 hc with hc | hc
    · exact hplain c hc
    · exact hurl c hc
  · intro name hname
    unfold placeholders routeOf at hname
    rw [String.toList_append, scanPlaceholders_outside (not_mem_of_plain hplain)] at hname
    exact (ho.url name).1 hname

lemma exists_makesUrl {e : Emission} (h : SpecRules e.spec e.naming) {v : Version}
    (hv : v ∈ e.spec.versions) {a : Api} (ha : a ∈ v.apis) :
    ∃ sigs errors, e.signatures v a = .ok sigs ∧ e.errorVariants = .ok errors ∧
      List.Forall₂ (MakesUrl v) a.operations (e.clientMethods v a sigs errors) := by
  obtain ⟨sigs, hsigs⟩ := succeeds_signatures h hv ha
  obtain ⟨errors, herrors⟩ : Succeeds e.errorVariants := succeeds_ofErrors h.errors
  refine ⟨sigs, errors, hsigs, herrors, ?_⟩
  unfold Emission.clientMethods
  rw [List.forall₂_map_right_iff]
  have hrules : ∀ o ∈ a.operations, OperationRules (.ofVersion v e.spec.httpErrors) e.naming o :=
    h.operations v hv a ha
  have hbuilt := (List.forall₂_and_left _ _).2 ⟨hrules, mapM_eq_ok_iff.1 hsigs⟩
  exact hbuilt.imp fun o sig hsig => makesUrl_ofSignature a.name errors hsig.1 hsig.2

/-- After validation every method of a client makes the URL of its request, exactly as far as the
braces of the full route are those of placeholders of the endpoint. -/
theorem validated_request_url {e : Emission} (hvalid : e.spec.validate e.naming = .ok ())
    {v : Version} (hv : v ∈ e.spec.versions) {a : Api} (ha : a ∈ v.apis) :
    ∃ sigs errors, e.signatures v a = .ok sigs ∧ e.errorVariants = .ok errors ∧
      List.Forall₂ (MakesUrl v) a.operations (e.clientMethods v a sigs errors) :=
  exists_makesUrl (.of_validate hvalid) hv ha

theorem validated_request_url_shop :
    shop.validate .standard = .ok () ∧ Balanced putOrder.endpoint.url ∧
      ∃ sigs errors, (Emission.mk shop .standard .standard .client).signatures shopVersion
          ⟨"orders", [putOrder]⟩ = .ok sigs ∧
        (Emission.mk shop .standard .standard .client).errorVariants = .ok errors ∧
        List.Forall₂ (MakesUrl shopVersion) [putOrder]
          ((Emission.mk shop .standard .standard .client).clientMethods shopVersion
            ⟨"orders", [putOrder]⟩ sigs errors) := by
  have hvalid : shop.validate .standard = .ok () := by decide +kernel
  have hbalanced : Balanced putOrder.endpoint.url := by decide +kernel
  exact ⟨hvalid, hbalanced,
    validated_request_url (e := ⟨shop, .standard, .standard, .client⟩) hvalid List.mem_cons_self
      List.mem_cons_self⟩

/-- A template with a brace that is never closed. -/
def getBroken : Operation :=
  ⟨"get", ⟨.get, "/a/\x7bid\x7d/\x7bbroken", [.ofType "id" (.named "string")]⟩, [], [], .empty,
    [⟨"ok", .empty, none⟩], none⟩

def brokenVersion : Version := ⟨"v1", none, [⟨"a", [getBroken]⟩], []⟩

def brokenSpec : Spec := ⟨"s", [brokenVersion], .empty⟩

/-- The template is accepted, and the literal that its client writes is no format string. -/
theorem unclosedBrace_not_format :
    brokenSpec.validate .standard = .ok () ∧
      ∃ sigs errors m, (Emission.mk brokenSpec .standard .standard .client).signatures
          brokenVersion ⟨"a", [getBroken]⟩ = .ok sigs ∧
        (Emission.mk brokenSpec .standard .standard .client).errorVariants = .ok errors ∧
        (Emission.mk brokenSpec .standard .standard .client).clientMethods brokenVersion
          ⟨"a", [getBroken]⟩ sigs errors = [m] ∧
        m.body.lines.head?.map Line.render = some
          "let request_url = format!(\"\x7b\x7d/v1/a/\x7b\x7d/\x7bbroken\", self.base_url, id);" ∧
        readFormat "\x7b\x7d/v1/a/\x7b\x7d/\x7bbroken".toList = none := by
  have hvalid : brokenSpec.validate .standard = .ok () := by decide +kernel
  refine ⟨hvalid, _, _, _, rfl, rfl, rfl, ?_, ?_⟩
  · decide +kernel
  · decide

end ApiCodegen.Proofs
