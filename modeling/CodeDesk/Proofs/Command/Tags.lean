import CodeDesk.Proofs.Command.Addresses
import CodeDesk.Proofs.Command.Output
import CodeDesk.Proofs.Command.References
import CodeDesk.Proofs.Text.Number
/-!
# Tags — what the markup of a line holds

Markup is read here without knowing what it was made from: an angle opens a
tag, the next one closes it, and nothing but the three elements of a line
with their exact attributes is a tag. What is left when the tags are removed
is text with escapes, and so is the address of a link.

Read in this way the markup of every line is well formed. Its tags are those
of its stream, or a pair for each reference in the line, and no text of a
program adds one to them. The rest, with the escapes undone, is the text of
the line.
-/

namespace CodeDesk
namespace Command
namespace Markup

/-! ## Reading -/

/-- What may be open within a line. -/
inductive Element where
  /-- What a program reports. -/
  | span
  /-- What the runner reports. -/
  | bold
  /-- A link. -/
  | anchor
  deriving DecidableEq, Repr

/-- A tag. -/
inductive Tag where
  /-- The start of what a program reports. -/
  | span
  /-- The start of what the runner reports. -/
  | bold
  /-- The start of a link. -/
  | anchor (address : List Char)
  /-- The end of an element. -/
  | close (e : Element)
  deriving DecidableEq, Repr

/-- A part of markup: a character outside of the tags, or a tag. -/
inductive Token where
  /-- A character. -/
  | char (c : Char)
  /-- A tag. -/
  | tag (t : Tag)
  deriving DecidableEq, Repr

/-- The character an escape stands for, by its name. -/
def escaped? (name : List Char) : Option Char :=
  if name = "lt".toList then some '<'
  else if name = "gt".toList then some '>'
  else if name = "amp".toList then some '&'
  else if name = "quot".toList then some '"'
  else none

/-- Undo the escapes of a text, in which nothing else may mean anything.
`name` is what was read of the escape at hand, last character first. -/
def unescape? : (name : Option (List Char)) → List Char → Option (List Char)
  | none, [] => some []
  | some _, [] => none
  | none, c :: cs =>
    if c = '&' then unescape? (some []) cs
    else if c ∈ special then none
    else (unescape? none cs).map (c :: ·)
  | some name, c :: cs =>
    if c = ';' then
      (escaped? name.reverse).bind fun d => (unescape? none cs).map (d :: ·)
    else unescape? (some (c :: name)) cs

/-- The tag that stands between two angles. The address of a link ends at
its first quote. -/
def tag? (cs : List Char) : Option Tag :=
  if cs = "span class=\"stderr\"".toList then some .span
  else if cs = "/span".toList then some (.close .span)
  else if cs = "b".toList then some .bold
  else if cs = "/b".toList then some (.close .bold)
  else if cs = "/a".toList then some (.close .anchor)
  else
    (dropLead? "a href=\"".toList cs).bind fun rest =>
      match cutFirst '"' rest with
      | some (address, []) => (unescape? none address).map .anchor
      | _ => none

/-- Tell the tags from the text. `inTag` is what was read of the tag at
hand, last character first. -/
def tokens? : (inTag : Option (List Char)) → List Char → Option (List Token)
  | none, [] => some []
  | some _, [] => none
  | none, c :: cs =>
    if c = '<' then tokens? (some []) cs
    else if c = '>' || c = '"' then none
    else (tokens? none cs).map (.char c :: ·)
  | some read, c :: cs =>
    if c = '>' then (tag? read.reverse).bind fun t => (tokens? none cs).map (.tag t :: ·)
    else if c = '<' then none
    else tokens? (some (c :: read)) cs

/-- What stands between the angles of a tag. -/
def Tag.inner : Tag → List Char
  | span => "span class=\"stderr\"".toList
  | bold => "b".toList
  | anchor address => "a href=\"".toList ++ (escapeChars address ++ ['"'])
  | close .span => "/span".toList
  | close .bold => "/b".toList
  | close .anchor => "/a".toList

/-- How a tag is written. -/
def Tag.chars (t : Tag) : List Char := '<' :: (t.inner ++ ['>'])

/-- How a token is written. -/
def Token.chars : Token → List Char
  | char c => [c]
  | tag t => t.chars

/-- The tags. -/
def tagsOf (tokens : List Token) : List Tag :=
  tokens.filterMap fun
    | .tag t => some t
    | .char _ => none

/-- What is left without the tags. -/
def charsOf (tokens : List Token) : List Char :=
  tokens.filterMap fun
    | .char c => some c
    | .tag _ => none

/-- Whether every tag that ends an element ends the last one that was
started, and all of them are ended; `opened` holds what is open, last one
first. -/
def isBalanced : (opened : List Element) → List Tag → Bool
  | [], [] => true
  | _ :: _, [] => false
  | opened, .span :: ts => isBalanced (.span :: opened) ts
  | opened, .bold :: ts => isBalanced (.bold :: opened) ts
  | opened, .anchor _ :: ts => isBalanced (.anchor :: opened) ts
  | e :: opened, .close e' :: ts => e = e' && isBalanced opened ts
  | [], .close _ :: _ => false

end Markup

open Markup

/-- Where the link of a reference leads. -/
def Reference.address (r : Reference) (base : Path) : List Char :=
  "file:///".toList ++ (r.target base).text.toList.dropWhile (· = '/') ++ "#L".toList ++ r.line ++
    ['C'] ++ r.col.getD ['1']

/-- The tags that belong to a line: those of its stream, or a pair for each
reference. -/
def tagsFor (stream : Stream) (links : Option Path) (cs : List Char) : List Tag :=
  match stream, links with
  | .stderr, _ => [.span, .close .span]
  | .status, _ => [.bold, .close .bold]
  | .stdout, none => []
  | .stdout, some base =>
    (referencesIn cs).flatMap fun r => [.anchor (r.address base), .close .anchor]

namespace Markup

variable {c : Char} {cs rest : List Char} {t t' : Tag}

/-! ## Escapes -/

theorem unescape?_escapeChar (c : Char) (rest : List Char) :
    unescape? none (escapeChar c ++ rest) = (unescape? none rest).map (c :: ·) := by
  unfold escapeChar
  iterate 4
    split
    · next hc =>
      subst hc
      rfl
  next hlt hgt hamp hquot =>
  have hplain : c ∉ special := by simp [special, hlt, hgt, hamp, hquot]
  rw [List.singleton_append, unescape?, if_neg hamp, if_neg hplain]

/-- **The escapes of a text are undone.** -/
theorem unescape?_escapeChars (cs rest : List Char) :
    unescape? none (escapeChars cs ++ rest) = (unescape? none rest).map (cs ++ ·) := by
  induction cs with
  | nil => exact Option.map_id'.symm
  | cons c cs ih =>
    rw [escapeChars] at ih
    rw [escapeChars, List.flatMap_cons, List.append_assoc, unescape?_escapeChar, ih,
      Option.map_map]
    rfl

theorem unescape?_escaped (cs : List Char) : unescape? none (escapeChars cs) = some cs := by
  have hall := unescape?_escapeChars cs []
  rwa [List.append_nil, unescape?, Option.map_some, List.append_nil] at hall

/-- What is escaped has no angles and no quotes. -/
theorem not_mem_escapeChars (cs : List Char) :
    '<' ∉ escapeChars cs ∧ '>' ∉ escapeChars cs ∧ '"' ∉ escapeChars cs := by
  have hchar : ∀ c : Char, '<' ∉ escapeChar c ∧ '>' ∉ escapeChar c ∧ '"' ∉ escapeChar c := by
    intro c
    unfold escapeChar
    iterate 4
      split
      · decide
    next hlt hgt _ hquot =>
    simp only [List.mem_singleton]
    exact ⟨Ne.symm hlt, Ne.symm hgt, Ne.symm hquot⟩
  have hnone : ∀ {d : Char}, (∀ c, d ∉ escapeChar c) → d ∉ escapeChars cs := fun h hd => by
    obtain ⟨c, -, hc⟩ := List.mem_flatMap.1 hd
    exact h c hc
  exact ⟨hnone fun c => (hchar c).1, hnone fun c => (hchar c).2.1, hnone fun c => (hchar c).2.2⟩

theorem escapeChars_append (cs ds : List Char) :
    escapeChars (cs ++ ds) = escapeChars cs ++ escapeChars ds := List.flatMap_append

/-- What means nothing in markup is not escaped. -/
theorem escapeChars_eq_self (h : ∀ c ∈ cs, c ∉ special) : escapeChars cs = cs := by
  have hself : ∀ c ∈ cs, escapeChar c = [c] := by
    intro c hc
    have hplain := h c hc
    simp only [special, List.mem_cons, List.not_mem_nil, not_or, or_false] at hplain
    obtain ⟨hlt, hgt, hamp, hquot⟩ := hplain
    rw [escapeChar, if_neg hlt, if_neg hgt, if_neg hamp, if_neg hquot]
  rw [escapeChars, List.flatMap_congr hself, List.flatMap_singleton']

/-! ## Tokens -/

/-- Characters that are no angles and no quotes are text. -/
theorem tokens?_chars (hlt : '<' ∉ cs) (hgt : '>' ∉ cs) (hquot : '"' ∉ cs) (rest : List Char) :
    tokens? none (cs ++ rest) = (tokens? none rest).map (cs.map .char ++ ·) := by
  induction cs with
  | nil => exact Option.map_id'.symm
  | cons c cs ih =>
    obtain ⟨hc, hlt⟩ := List.ne_and_not_mem_of_not_mem_cons hlt
    obtain ⟨hc', hgt⟩ := List.ne_and_not_mem_of_not_mem_cons hgt
    obtain ⟨hc'', hquot⟩ := List.ne_and_not_mem_of_not_mem_cons hquot
    have hend : ¬ (decide (c = '>') || decide (c = '"')) = true := by
      simp [Ne.symm hc', Ne.symm hc'']
    rw [List.cons_append, tokens?, if_neg (Ne.symm hc), if_neg hend, ih hlt hgt hquot,
      Option.map_map]
    rfl

/-- What a tag is read from, up to the angle behind it. -/
theorem tokens?_inTag (read : List Char) (hlt : '<' ∉ cs) (hgt : '>' ∉ cs) (rest : List Char) :
    tokens? (some read) (cs ++ '>' :: rest) =
      (tag? (read.reverse ++ cs)).bind fun t => (tokens? none rest).map (.tag t :: ·) := by
  induction cs generalizing read with
  | nil => rw [List.nil_append, List.append_nil, tokens?, if_pos rfl]
  | cons c cs ih =>
    obtain ⟨hc, hlt⟩ := List.ne_and_not_mem_of_not_mem_cons hlt
    obtain ⟨hc', hgt⟩ := List.ne_and_not_mem_of_not_mem_cons hgt
    rw [List.cons_append, tokens?, if_neg (Ne.symm hc'), if_neg (Ne.symm hc),
      ih (c :: read) hlt hgt, List.reverse_cons, List.append_assoc, List.singleton_append]

/-- **Markup that is read by itself**, whatever follows it: as a text and
its tags. -/
def Reads (markup text : List Char) (tags : List Tag) : Prop :=
  ∃ tokens, (∀ rest, tokens? none (markup ++ rest) = (tokens? none rest).map (tokens ++ ·)) ∧
    tokens.flatMap Token.chars = markup ∧ tagsOf tokens = tags ∧
    charsOf tokens = escapeChars text

section Reads

variable {markup markup' text text' : List Char} {tags tags' : List Tag}

/-- Markup is read part by part. -/
theorem Reads.append (h : Reads markup text tags) (h' : Reads markup' text' tags') :
    Reads (markup ++ markup') (text ++ text') (tags ++ tags') := by
  obtain ⟨tokens, hread, hwritten, htags, hchars⟩ := h
  obtain ⟨tokens', hread', hwritten', htags', hchars'⟩ := h'
  refine ⟨tokens ++ tokens', fun rest => ?_, ?_, ?_, ?_⟩
  · rw [List.append_assoc, hread, hread', Option.map_map]
    exact Option.map_congr fun _ _ => (List.append_assoc ..).symm
  · rw [List.flatMap_append, hwritten, hwritten']
  · rw [tagsOf, List.filterMap_append, ← tagsOf, ← tagsOf, htags, htags']
  · rw [charsOf, List.filterMap_append, ← charsOf, ← charsOf, hchars, hchars', escapeChars_append]

/-- A text that is escaped has no tags. -/
theorem reads_escapeChars (text : List Char) : Reads (escapeChars text) text [] := by
  refine ⟨(escapeChars text).map .char, fun rest => ?_, ?_, ?_, ?_⟩
  · obtain ⟨hlt, hgt, hquot⟩ := not_mem_escapeChars text
    exact tokens?_chars hlt hgt hquot rest
  · rw [List.flatMap_map]
    exact List.flatMap_singleton' _
  · simp [tagsOf, List.filterMap_map]
  · simp [charsOf, List.filterMap_map]

/-- What is left of markup without the tags is its text with escapes. -/
theorem Reads.tokens (h : Reads markup text tags) :
    ∃ tokens, tokens? none markup = some tokens ∧ tokens.flatMap Token.chars = markup ∧
      tagsOf tokens = tags ∧ charsOf tokens = escapeChars text := by
  obtain ⟨tokens, hread, hrest⟩ := h
  have hall := hread []
  rw [List.append_nil, tokens?, Option.map_some, List.append_nil] at hall
  exact ⟨tokens, hall, hrest⟩

end Reads

/-! ## The tags there are -/

theorem Tag.inner_anchor (address : List Char) :
    (anchor address).inner = "a href=\"".toList ++ (escapeChars address ++ ['"']) := rfl

theorem Tag.chars_anchor (address : List Char) : (anchor address).chars =
    "<a href=\"".toList ++ (escapeChars address ++ "\">".toList) := by
  have hchars : (anchor address).chars = "<a href=\"".toList ++ (escapeChars address ++ ['"']) ++
      ['>'] := rfl
  simp only [hchars, List.append_assoc]
  rfl

theorem Tag.not_mem_inner (t : Tag) : '<' ∉ t.inner ∧ '>' ∉ t.inner := by
  cases t with
  | span => decide
  | bold => decide
  | anchor address =>
    obtain ⟨hlt, hgt, -⟩ := not_mem_escapeChars address
    have hplain : ∀ {d : Char}, d ∉ "a href=\"".toList → d ∉ escapeChars address → d ∉ ['"'] →
        d ∉ (anchor address).inner := fun ha hb hc => by
      rw [inner_anchor, List.mem_append, List.mem_append, not_or, not_or]
      exact ⟨ha, hb, hc⟩
    exact ⟨hplain (by decide) hlt (by decide), hplain (by decide) hgt (by decide)⟩
  | close e => cases e <;> decide

/-- **A tag is read as it is written.** A link leads to its address, whatever
characters are in that. -/
theorem tag?_inner (t : Tag) : tag? t.inner = some t := by
  cases t with
  | span => decide
  | bold => decide
  | anchor address =>
    have hquot : '"' ∉ escapeChars address := (not_mem_escapeChars address).2.2
    have hother : ∀ fixed : List Char, fixed.head? ≠ some 'a' →
        (Tag.anchor address).inner ≠ fixed := by
      intro fixed hhead heq
      exact hhead (heq ▸ rfl)
    rw [tag?, if_neg (hother _ (by decide)), if_neg (hother _ (by decide)),
      if_neg (hother _ (by decide)), if_neg (hother _ (by decide)), if_neg (hother _ (by decide)),
      dropLead?_eq_some_iff.2 (Tag.inner_anchor address), Option.bind_some,
      cutFirst_append hquot]
    dsimp only
    rw [unescape?_escaped, Option.map_some]
  | close e => cases e <;> decide

/-- A tag has no text. -/
theorem reads_tag (t : Tag) : Reads t.chars [] [t] := by
  obtain ⟨hlt, hgt⟩ := t.not_mem_inner
  refine ⟨[.tag t], fun rest => ?_, List.flatMap_singleton .., rfl, rfl⟩
  rw [Tag.chars, List.cons_append, List.append_assoc, List.singleton_append, tokens?, if_pos rfl,
    tokens?_inTag [] hlt hgt, List.reverse_nil, List.nil_append, tag?_inner]
  rfl

/-- A text between two tags. -/
theorem reads_within (t t' : Tag) (text : List Char) :
    Reads (t.chars ++ escapeChars text ++ t'.chars) text [t, t'] := by
  have hread := ((reads_tag t).append (reads_escapeChars text)).append (reads_tag t')
  rwa [List.nil_append, List.append_nil] at hread

/-! ## References -/

section

variable {r : Reference} {here : Nat} {rs : List Reference}

/-- The address is written with its escapes: the line and the column have
none. -/
theorem escapeChars_address (base : Path) (h : ∀ c ∈ r.line ++ r.col.getD ['1'], c ∉ special) :
    escapeChars (r.address base) =
      "file:///".toList ++ escapeChars ((r.target base).text.toList.dropWhile (· = '/')) ++
        "#L".toList ++ r.line ++ ['C'] ++ r.col.getD ['1'] := by
  have hline : escapeChars r.line = r.line :=
    escapeChars_eq_self fun c hc => h c (List.mem_append_left _ hc)
  have hcol : escapeChars (r.col.getD ['1']) = r.col.getD ['1'] :=
    escapeChars_eq_self fun c hc => h c (List.mem_append_right _ hc)
  have hscheme : escapeChars "file:///".toList = "file:///".toList := by decide
  have hline' : escapeChars "#L".toList = "#L".toList := by decide
  have hcol' : escapeChars ['C'] = ['C'] := by decide
  calc escapeChars (r.address base)
    _ = escapeChars ("file:///".toList ++ (r.target base).text.toList.dropWhile (· = '/') ++
          "#L".toList ++ r.line ++ ['C'] ++ r.col.getD ['1']) := rfl
    _ = _ := by simp only [escapeChars_append, hscheme, hline', hline, hcol', hcol]

/-- **The link of a reference** is a pair of tags around its text. -/
theorem reads_reference (base : Path) (cs : List Char)
    (h : ∀ c ∈ r.line ++ r.col.getD ['1'], c ∉ special) :
    Reads (r.markup base cs) ((cs.drop r.start).take (r.stop - r.start))
      [.anchor (r.address base), .close .anchor] := by
  have hopen : "<a href=\"file:///".toList = "<a href=\"".toList ++ "file:///".toList := by decide
  have hmarkup : r.markup base cs = (Tag.anchor (r.address base)).chars ++
      escapeChars ((cs.drop r.start).take (r.stop - r.start)) ++ (Tag.close .anchor).chars := by
    calc r.markup base cs
      _ = "<a href=\"file:///".toList ++
            escapeChars ((r.target base).text.toList.dropWhile (· = '/')) ++ "#L".toList ++
            r.line ++ ['C'] ++ r.col.getD ['1'] ++ "\">".toList ++
            escapeChars ((cs.drop r.start).take (r.stop - r.start)) ++
            (Tag.close .anchor).chars := rfl
      _ = _ := by simp only [Tag.chars_anchor, hopen, escapeChars_address base h, List.append_assoc]
  rw [hmarkup]
  exact reads_within _ _ _

/-- **A line with its references as links**: between two of them and around
them there are no tags, and no character is lost. -/
theorem reads_linkFrom (base : Path) (cs : List Char)
    (hascending : Ascending here (rs.map fun r => (r.start, r.stop)))
    (hplain : ∀ r ∈ rs, ∀ c ∈ r.line ++ r.col.getD ['1'], c ∉ special) :
    Reads (linkFrom base cs here rs) (cs.drop here)
      (rs.flatMap fun r => [.anchor (r.address base), .close .anchor]) := by
  induction rs generalizing here with
  | nil => exact reads_escapeChars _
  | cons r rs ih =>
    obtain ⟨hhere, hrange, hrest⟩ := hascending
    obtain ⟨hr, hrs⟩ := List.forall_mem_cons.1 hplain
    have hread := ((reads_escapeChars ((cs.drop here).take (r.start - here))).append
      (reads_reference base cs hr)).append (ih hrest hrs)
    have hcut : (cs.drop here).take (r.start - here) ++
        (cs.drop r.start).take (r.stop - r.start) ++ cs.drop r.stop = cs.drop here := by
      have hfirst : cs.drop r.start = (cs.drop here).drop (r.start - here) := by
        rw [List.drop_drop, Nat.add_sub_cancel' hhere]
      have hsecond : cs.drop r.stop = (cs.drop r.start).drop (r.stop - r.start) := by
        rw [List.drop_drop, Nat.add_sub_cancel' hrange]
      rw [List.append_assoc, hsecond, List.take_append_drop, hfirst, List.take_append_drop]
    rw [hcut, List.nil_append] at hread
    exact hread

/-- Links are not nested. -/
theorem isBalanced_anchors (addresses : List (List Char)) :
    isBalanced [] (addresses.flatMap fun a => [.anchor a, .close .anchor]) = true := by
  induction addresses with
  | nil => rfl
  | cons a addresses ih => exact ih

end

theorem toList_escapeMarkup (line : String) :
    (escapeMarkup line).toList = escapeChars line.toList := String.toList_ofList

/-- A line within an element. -/
theorem reads_element {opening closing : String} (ht : opening.toList = t.chars)
    (ht' : closing.toList = t'.chars) (line : String) :
    Reads (opening ++ escapeMarkup line ++ closing).toList line.toList [t, t'] := by
  rw [String.toList_append, String.toList_append, ht, ht', toList_escapeMarkup]
  exact reads_within t t' line.toList

/-- **The markup of a line** reads as its text and the tags that belong to
it. -/
theorem reads_markup (stream : Stream) (links : Option Path) (line : String) :
    Reads (markup stream links line).toList line.toList (tagsFor stream links line.toList) := by
  match stream, links with
  | .stderr, _ =>
    have ht : "<span class=\"stderr\">".toList = Tag.span.chars := by decide
    exact reads_element ht (by decide : "</span>".toList = (Tag.close .span).chars) line
  | .status, _ =>
    have ht : "<b>".toList = Tag.bold.chars := by decide
    exact reads_element ht (by decide : "</b>".toList = (Tag.close .bold).chars) line
  | .stdout, none =>
    have hread := reads_escapeChars line.toList
    rw [← toList_escapeMarkup] at hread
    exact hread
  | .stdout, some base =>
    obtain ⟨hascending, hplain⟩ := referencesIn_sound line.toList
    have hlink : (linkMarkup base line).toList =
        linkFrom base line.toList 0 (referencesIn line.toList) := String.toList_ofList
    have hread := reads_linkFrom base line.toList hascending hplain
    rw [← hlink] at hread
    exact hread

/-- Every tag of a line is ended where it ought to be. -/
theorem isBalanced_tagsFor (stream : Stream) (links : Option Path) (cs : List Char) :
    isBalanced [] (tagsFor stream links cs) = true := by
  match stream, links with
  | .stderr, _ => rfl
  | .status, _ => rfl
  | .stdout, none => rfl
  | .stdout, some base =>
    have hbalanced := isBalanced_anchors ((referencesIn cs).map (Reference.address · base))
    rwa [List.flatMap_map] at hbalanced

end Markup

/-- **What is added to a sink is well formed.** The markup of the line is
made of characters and tags, and reading it tells these from one another. The
tags are those that belong to the line, and they are balanced. No angle is
left without them, and with the escapes undone what is left is the text of
the line: that which was added, up to the line breaks at its end. -/
theorem Sinks.append_well_formed (s : Sinks) (name : String) (stream : Stream)
    (links : Option Path) (text : String) (ls : List Line) (h : s.get? name = some ls) :
    ∃ l tokens,
      (s.append name stream links text).get? name = some (ls ++ [l]) ∧
      (s.append name stream links text).events = s.events ++ [.line name l] ∧
      l.stream = stream ∧ l.text = trimBreaks text ∧
      tokens? none l.markup.toList = some tokens ∧
      tokens.flatMap Token.chars = l.markup.toList ∧
      tagsOf tokens = tagsFor stream links l.text.toList ∧
      isBalanced [] (tagsOf tokens) = true ∧
      '<' ∉ charsOf tokens ∧ '>' ∉ charsOf tokens ∧
      unescape? none (charsOf tokens) = some l.text.toList := by
  obtain ⟨tokens, htokens, hwritten, htags, hchars⟩ :=
    (reads_markup stream links (trimBreaks text)).tokens
  obtain ⟨hlt, hgt, -⟩ := not_mem_escapeChars (trimBreaks text).toList
  have happend := append_of_some h stream links text
  refine ⟨lineOf stream links text, tokens, ?_, by rw [happend], rfl, rfl, htokens, hwritten,
    htags, ?_, hchars ▸ hlt, hchars ▸ hgt, ?_⟩
  · rw [happend, get?_set, if_pos rfl]
  · rw [htags]
    exact isBalanced_tagsFor stream links _
  · rw [hchars]
    exact unescape?_escaped _

/-- Text that looks like tags. -/
theorem Sinks.append_well_formed_forged :
    (Sinks.empty.create "out" false).get? "out" = some [] ∧
      ∃ l tokens,
        ((Sinks.empty.create "out" false).append "out" .stderr none "</span><b>&\"\n").get? "out" =
          some [l] ∧
        l.text = "</span><b>&\"" ∧ tokens? none l.markup.toList = some tokens ∧
        tagsOf tokens = [.span, .close .span] ∧
        unescape? none (charsOf tokens) = some "</span><b>&\"".toList := by
  have hout : (Sinks.empty.create "out" false).get? "out" = some [] := by decide
  obtain ⟨l, tokens, hget, -, -, htext, htokens, -, htags, -, -, -, hchars⟩ :=
    Sinks.append_well_formed (Sinks.empty.create "out" false) "out" .stderr none
      "</span><b>&\"\n" [] hout
  have htrim : trimBreaks "</span><b>&\"\n" = "</span><b>&\"" := by decide
  rw [htrim] at htext
  rw [htext] at hchars
  exact ⟨hout, l, tokens, hget, htext, htokens, htags, hchars⟩

end Command
end CodeDesk
