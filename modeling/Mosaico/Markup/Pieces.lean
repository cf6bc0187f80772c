import Mathlib.Data.List.Forall2

/-!
# Documents of literals and escaped fields

A serializer writes literals, numbers and fields.  A field is escaped for an attribute value or
for the content between tags.  The scanner below reads a document as an XML reader does: it
follows where the text is in a tag or in an attribute value and reports each markup character with
the place where it stands.

If every field is written where its escaping is made for, the fields add nothing to the markup: it
is the markup of the literals.
-/

namespace Markup

/-! ## The scanner -/

/-- Where a character stands. -/
inductive Context where
  | content
  | tag
  | value
  deriving DecidableEq, Repr

namespace Context

def after : Context → Char → Context
  | .content, c => if c = '<' then .tag else .content
  | .tag, c => if c = '"' then .value else if c = '>' then .content else .tag
  | .value, c => if c = '"' then .tag else .value

/-- A quote is markup in a tag only, where it opens or closes an attribute value. -/
def isMark (context : Context) (c : Char) : Bool :=
  c = '<' || c = '>' || (c = '"' && context ≠ .content)

/-- The place after a text. -/
def close (context : Context) (chars : List Char) : Context :=
  chars.foldl after context

@[simp] theorem close_nil (context : Context) : context.close [] = context := rfl

@[simp] theorem close_cons (context : Context) (c : Char) (rest : List Char) :
    context.close (c :: rest) = (context.after c).close rest := rfl

@[simp] theorem close_append (context : Context) (first second : List Char) :
    context.close (first ++ second) = (context.close first).close second :=
  List.foldl_append

end Context

/-- The markup of a text, each character with its place. -/
def marks : Context → List Char → List (Context × Char)
  | _, [] => []
  | context, c :: rest =>
      (if context.isMark c then [(context, c)] else []) ++ marks (context.after c) rest

theorem marks_append (context : Context) (first second : List Char) :
    marks context (first ++ second) =
      marks context first ++ marks (context.close first) second := by
  induction first generalizing context with
  | nil => rfl
  | cons c rest ih =>
      rw [List.cons_append, marks, marks, ih, Context.close_cons, List.append_assoc]

/-- A character that is no markup and leaves the place as it is. -/
def Context.Ignores (context : Context) (c : Char) : Prop :=
  context.isMark c = false ∧ context.after c = context

theorem ignores_of_ne {context : Context} {c : Char} (hopen : c ≠ '<') (hclose : c ≠ '>')
    (hquote : context ≠ .content → c ≠ '"') : context.Ignores c := by
  cases context with
  | content => simp [Context.Ignores, Context.isMark, Context.after, hopen, hclose]
  | tag | value =>
      have hquote := hquote (by decide)
      simp [Context.Ignores, Context.isMark, Context.after, hopen, hclose, hquote]

theorem quiet {context : Context} {chars : List Char} (hignores : ∀ c ∈ chars, context.Ignores c) :
    marks context chars = [] ∧ context.close chars = context := by
  induction chars with
  | nil => exact ⟨rfl, rfl⟩
  | cons c rest ih =>
      obtain ⟨hmark, hafter⟩ := hignores c List.mem_cons_self
      obtain ⟨hmarks, hclose⟩ := ih
        (fun other hother => hignores other (List.mem_cons_of_mem c hother))
      constructor
      · rw [marks, hmark, hafter, hmarks]
        rfl
      · rw [Context.close_cons, hafter, hclose]

/-! ## Escaping -/

/-- Two ways to escape a text and one to read both back. -/
structure Escaping where
  attr : String → String
  text : String → String
  unescape : String → String
  attr_clean : ∀ field, ∀ c ∈ (attr field).toList, c ≠ '<' ∧ c ≠ '>' ∧ c ≠ '"'
  text_clean : ∀ field, ∀ c ∈ (text field).toList, c ≠ '<' ∧ c ≠ '>'
  unescape_attr : ∀ field, unescape (attr field) = field
  unescape_text : ∀ field, unescape (text field) = field

/-! ## Pieces -/

/-- What a serializer writes.  `padding` is a number of blanks. -/
inductive Piece (φ : Type) where
  | literal (chars : String)
  | padding (width : Nat)
  | number (value : Nat)
  | attr (field : φ)
  | text (field : φ)
  deriving DecidableEq, Repr

variable {φ : Type}

/-- The pieces are of one kind and, but for the fields, the same. -/
inductive Piece.Alike : Piece φ → Piece φ → Prop
  | literal (chars : String) : Alike (.literal chars) (.literal chars)
  | padding (width : Nat) : Alike (.padding width) (.padding width)
  | number (value : Nat) : Alike (.number value) (.number value)
  | attr (first second : φ) : Alike (.attr first) (.attr second)
  | text (first second : φ) : Alike (.text first) (.text second)

@[refl] theorem Piece.Alike.refl (piece : Piece φ) : piece.Alike piece := by
  cases piece with
  | literal chars => exact .literal chars
  | padding width => exact .padding width
  | number value => exact .number value
  | attr field => exact .attr field field
  | text field => exact .text field field

section Rendering

variable (escaping : Escaping) (display : φ → String)

def Piece.render : Piece φ → String
  | .literal chars => chars
  | .padding width => String.ofList (List.replicate width ' ')
  | .number value => value.repr
  | .attr field => escaping.attr (display field)
  | .text field => escaping.text (display field)

/-- The document. -/
def render (pieces : List (Piece φ)) : String :=
  String.join (pieces.map (Piece.render escaping display))

/-- The place after the pieces, or nothing if a field stands where its escaping does not hold. -/
def flow : Context → List (Piece φ) → Option Context
  | context, [] => some context
  | context, .literal chars :: rest => flow (context.close chars.toList) rest
  | context, .padding _ :: rest => flow context rest
  | context, .number _ :: rest => flow context rest
  | .value, .attr _ :: rest => flow .value rest
  | .content, .text _ :: rest => flow .content rest
  | _, _ :: _ => none

/-- The markup of the literals. -/
def literalMarks : Context → List (Piece φ) → List (Context × Char)
  | _, [] => []
  | context, .literal chars :: rest =>
      marks context chars.toList ++ literalMarks (context.close chars.toList) rest
  | context, _ :: rest => literalMarks context rest

end Rendering

/-! ## Rendering composes -/

section Composition

variable (escaping : Escaping) (display : φ → String)

@[simp] theorem render_nil : render escaping display ([] : List (Piece φ)) = "" := rfl

@[simp] theorem render_cons (piece : Piece φ) (rest : List (Piece φ)) :
    render escaping display (piece :: rest) =
      piece.render escaping display ++ render escaping display rest := by
  rw [render, render, List.map_cons, String.join_cons]

@[simp] theorem render_append (first second : List (Piece φ)) :
    render escaping display (first ++ second) =
      render escaping display first ++ render escaping display second := by
  rw [render, render, render, List.map_append, String.join_append]

/-- A loop that appends to the document writes the pieces of its rounds. -/
theorem foldl_render {β : Type} {step : String → β → String} {pieces : β → List (Piece φ)}
    (hstep : ∀ out x, step out x = out ++ render escaping display (pieces x))
    (xs : List β) (out : String) :
    xs.foldl step out = out ++ render escaping display (xs.flatMap pieces) := by
  induction xs generalizing out with
  | nil => rw [List.foldl_nil, List.flatMap_nil, render_nil, String.append_empty]
  | cons x rest ih =>
      rw [List.foldl_cons, ih, hstep, List.flatMap_cons, render_append, String.append_assoc]

theorem render_intercalate (sep : List (Piece φ)) (parts : List (List (Piece φ))) :
    render escaping display (sep.intercalate parts) =
      (render escaping display sep).intercalate (parts.map (render escaping display)) := by
  induction parts with
  | nil => rfl
  | cons part rest ih =>
      cases rest with
      | nil =>
          rw [List.intercalate_singleton, List.map_cons, List.map_nil,
            String.intercalate_singleton]
      | cons next rest =>
          rw [List.intercalate_cons_cons, render_append, render_append, ih]
          simp only [List.map_cons, String.intercalate_cons_cons]

end Composition

/-! ## Where the pieces stand -/

theorem flow_append {context middle last : Context} {first second : List (Piece φ)}
    (hfirst : flow context first = some middle) (hsecond : flow middle second = some last) :
    flow context (first ++ second) = some last := by
  induction first generalizing context with
  | nil =>
      obtain rfl : context = middle := Option.some_inj.mp hfirst
      exact hsecond
  | cons piece rest ih =>
      cases piece with
      | literal chars => exact ih hfirst
      | padding width | number value => exact ih (by cases context <;> exact hfirst)
      | attr field =>
          cases context with
          | content | tag => cases hfirst
          | value => exact ih hfirst
      | text field =>
          cases context with
          | content => exact ih hfirst
          | tag | value => cases hfirst

/-- A text without an opening bracket leaves the content. -/
theorem close_content {chars : List Char} (hopen : '<' ∉ chars) :
    Context.content.close chars = .content := by
  induction chars with
  | nil => rfl
  | cons c rest ih =>
      have hc := List.ne_of_not_mem_cons hopen
      have hrest := List.not_mem_of_not_mem_cons hopen
      rw [Context.close_cons, Context.after, if_neg (Ne.symm hc), ih hrest]

theorem flow_prose {chars : String} (hopen : '<' ∉ chars.toList) (rest : List (Piece φ)) :
    flow .content (.literal chars :: rest) = flow .content rest := by
  rw [flow, close_content hopen]

theorem flow_flatMap {β : Type} {context : Context} {pieces : β → List (Piece φ)}
    (hpieces : ∀ x, flow context (pieces x) = some context) (xs : List β) :
    flow context (xs.flatMap pieces) = some context := by
  induction xs with
  | nil => cases context <;> rfl
  | cons x rest ih => exact flow_append (hpieces x) ih

theorem flow_intercalate {context : Context} {sep : List (Piece φ)}
    (hsep : flow context sep = some context) {parts : List (List (Piece φ))}
    (hparts : ∀ part ∈ parts, flow context part = some context) :
    flow context (sep.intercalate parts) = some context := by
  induction parts with
  | nil => cases context <;> rfl
  | cons part rest ih =>
      have hpart := hparts part List.mem_cons_self
      have hrest := ih (fun other hother => hparts other (List.mem_cons_of_mem part hother))
      cases rest with
      | nil => rwa [List.intercalate_singleton]
      | cons next rest =>
          rw [List.intercalate_cons_cons]
          exact flow_append (flow_append hpart hsep) hrest

/-! ## The markup of a document -/

section Document

variable (escaping : Escaping) (display : φ → String)

/-- The fields add nothing to the markup. -/
theorem marks_render {context last : Context} {pieces : List (Piece φ)}
    (hflow : flow context pieces = some last) :
    marks context (render escaping display pieces).toList = literalMarks context pieces ∧
      context.close (render escaping display pieces).toList = last := by
  -- What one piece adds when every character of it is ignored.
  have hquiet : ∀ {context : Context} {chars rest : List Char} {expected : List (Context × Char)},
      (∀ c ∈ chars, context.Ignores c) →
      marks context rest = expected ∧ context.close rest = last →
      marks context (chars ++ rest) = expected ∧ context.close (chars ++ rest) = last := by
    intro context chars rest expected hignores hrest
    obtain ⟨hmarks, hclose⟩ := quiet hignores
    rw [marks_append, Context.close_append, hmarks, hclose]
    exact hrest
  induction pieces generalizing context with
  | nil => exact ⟨rfl, Option.some_inj.mp hflow⟩
  | cons piece rest ih =>
      rw [render_cons, String.toList_append]
      cases piece with
      | literal chars =>
          obtain ⟨hmarks, hclose⟩ := ih hflow
          rw [Piece.render, marks_append, Context.close_append, hmarks, hclose]
          exact ⟨rfl, rfl⟩
      | padding width =>
          have hrest := ih (show flow context rest = some last by cases context <;> exact hflow)
          refine hquiet (fun c hc => ?_) (by cases context <;> exact hrest)
          rw [Piece.render, String.toList_ofList] at hc
          rw [List.eq_of_mem_replicate hc]
          exact ignores_of_ne (by decide) (by decide) (fun _ => by decide)
      | number value =>
          have hrest := ih (show flow context rest = some last by cases context <;> exact hflow)
          refine hquiet (fun c hc => ?_) (by cases context <;> exact hrest)
          rw [Piece.render, Nat.toList_repr] at hc
          have hdigit := Nat.isDigit_of_mem_toDigits (by decide) (by decide) hc
          refine ignores_of_ne ?_ ?_ (fun _ => ?_) <;>
            rintro rfl <;> exact absurd hdigit (by decide)
      | attr field =>
          cases context with
          | content | tag => cases hflow
          | value =>
              refine hquiet (fun c hc => ?_) (ih hflow)
              obtain ⟨hopen, hclose, hquote⟩ := escaping.attr_clean (display field) c hc
              exact ignores_of_ne hopen hclose (fun _ => hquote)
      | text field =>
          cases context with
          | content =>
              refine hquiet (fun c hc => ?_) (ih hflow)
              obtain ⟨hopen, hclose⟩ := escaping.text_clean (display field) c hc
              exact ignores_of_ne hopen hclose (fun hother => absurd rfl hother)
          | tag | value => cases hflow

end Document

/-! ## Documents that differ in their fields only -/

namespace Piece

@[simp] theorem alike_literal_iff {first second : String} :
    Piece.Alike (φ := φ) (.literal first) (.literal second) ↔ first = second := by
  constructor
  · rintro ⟨⟩
    rfl
  · rintro rfl
    exact .literal first

@[simp] theorem alike_padding_iff {first second : Nat} :
    Piece.Alike (φ := φ) (.padding first) (.padding second) ↔ first = second := by
  constructor
  · rintro ⟨⟩
    rfl
  · rintro rfl
    exact .padding first

@[simp] theorem alike_attr (first second : φ) : Piece.Alike (.attr first) (.attr second) :=
  .attr first second

@[simp] theorem alike_text (first second : φ) : Piece.Alike (.text first) (.text second) :=
  .text first second

end Piece

theorem alike_append {first second third fourth : List (Piece φ)}
    (hleft : List.Forall₂ Piece.Alike first second)
    (hright : List.Forall₂ Piece.Alike third fourth) :
    List.Forall₂ Piece.Alike (first ++ third) (second ++ fourth) :=
  List.rel_append hleft hright

theorem alike_refl (pieces : List (Piece φ)) : List.Forall₂ Piece.Alike pieces pieces :=
  List.forall₂_same.mpr fun piece _ => .refl piece

theorem alike_flatMap {β : Type} {related : β → β → Prop} {pieces : β → List (Piece φ)}
    (hpieces : ∀ x y, related x y → List.Forall₂ Piece.Alike (pieces x) (pieces y))
    {xs ys : List β} (hrelated : List.Forall₂ related xs ys) :
    List.Forall₂ Piece.Alike (xs.flatMap pieces) (ys.flatMap pieces) :=
  List.rel_flatMap hrelated (fun x y hxy => hpieces x y hxy)

theorem alike_intercalate {sep : List (Piece φ)} {first second : List (List (Piece φ))}
    (hparts : List.Forall₂ (List.Forall₂ Piece.Alike) first second) :
    List.Forall₂ Piece.Alike (sep.intercalate first) (sep.intercalate second) := by
  induction hparts with
  | nil => exact .nil
  | @cons part other rest others hpart hrest ih =>
      cases hrest with
      | nil =>
          rw [List.intercalate_singleton, List.intercalate_singleton]
          exact hpart
      | cons hnext hrest =>
          rw [List.intercalate_cons_cons, List.intercalate_cons_cons]
          exact alike_append (alike_append hpart (alike_refl sep)) ih

theorem literalMarks_congr {context : Context} {first second : List (Piece φ)}
    (halike : List.Forall₂ Piece.Alike first second) :
    literalMarks context first = literalMarks context second ∧
      flow context first = flow context second := by
  induction halike generalizing context with
  | nil => exact ⟨rfl, rfl⟩
  | @cons piece other rest others hpiece _ ih =>
      cases hpiece with
      | literal chars =>
          rw [literalMarks, literalMarks, ih.1]
          exact ⟨rfl, ih.2⟩
      | padding width | number value => cases context <;> exact ih
      | attr field field' =>
          cases context with
          | content | tag => exact ⟨ih.1, rfl⟩
          | value => exact ih
      | text field field' =>
          cases context with
          | content => exact ih
          | tag | value => exact ⟨ih.1, rfl⟩

/-- Whatever the fields of two documents are, their markup is the same. -/
theorem marks_render_congr (escaping : Escaping) (display : φ → String) {context last : Context}
    {first second : List (Piece φ)} (halike : List.Forall₂ Piece.Alike first second)
    (hflow : flow context first = some last) :
    marks context (render escaping display first).toList =
      marks context (render escaping display second).toList := by
  obtain ⟨hmarks, hsame⟩ := @literalMarks_congr φ context first second halike
  rw [(marks_render escaping display hflow).1,
    (marks_render escaping display (hsame.symm.trans hflow)).1, hmarks]

end Markup
