import SecurityScan.Proofs.Entries
import SecurityScan.Proofs.Parts
import SecurityScan.Proofs.Prompt

/-!
# Names without a value

A name without a value stands for itself in braces, and what else its field asks for is then done to
that text. No part of it, no form of it and no layout gives back what stands in the template: the
field is left as it is written exactly when there is nothing to it but the name.
-/

namespace SecurityScan

namespace Prompt

/-! ## Laying out -/

/-- A text filled up at its end begins with all that begins the whole and does not end with the fill. -/
theorem prefix_of_append_replicate {cut front rest : List Char} {n : Nat} {fill m : Char}
    (hfill : n ≠ 0 → fill ≠ m) (h : cut ++ List.replicate n fill = (front ++ [m]) ++ rest) :
    front ++ [m] <+: cut := by
  obtain ⟨more, hmore, hrest⟩ | ⟨more, hmore, -⟩ := List.append_eq_append_iff.mp h
  · obtain rfl | ⟨init, d, rfl⟩ := more.eq_nil_or_concat'
    · exact ⟨[], by simpa using hmore⟩
    · rw [← List.append_assoc] at hmore
      obtain rfl : m = d := List.singleton_inj.mp (List.append_inj' hmore rfl).2
      have hm : m ∈ List.replicate n fill := hrest ▸ by simp
      obtain ⟨hn, rfl⟩ := List.mem_replicate.mp hm
      exact absurd rfl (hfill hn)
  · exact ⟨more, hmore.symm⟩

/-- The text that a field of a name without a value is laid out from. -/
inductive Shown (name : List Char) : List Char → Prop
  | tame {cs : List Char} : TameText name cs → Shown name cs
  | quoted {quote b : Char} (rest : List Char) : isBrace quote = false → isBrace b = true →
    Shown name (quote :: b :: rest)

section
variable {name cs : List Char}

theorem shown_quoted (ascii : Bool) (h : TameText name cs) :
    Shown name (Found.quoted ascii (.text cs)) := by
  have hbrace : ∀ b ds, cs = b :: ds → isBrace b = true →
      Shown name (Found.quoted ascii (.text cs)) := by
    rintro b ds rfl hb
    obtain ⟨quote, rest, hquote, heq⟩ := quoted_brace ascii hb ds
    rw [heq]
    exact .quoted rest hquote hb
  have hplain : Braceless cs → Shown name (Found.quoted ascii (.text cs)) :=
    fun h => .tame (Or.inr (Or.inr (braceless_quoted ascii h)))
  obtain hwhole | hshort | h := h
  · exact hbrace _ _ hwhole rfl
  · obtain rfl | ⟨b, rfl⟩ : cs = [] ∨ ∃ b, cs = [b] := by
      rwa [Nat.le_one_iff_eq_zero_or_eq_one, List.length_eq_zero_iff, List.length_eq_one_iff] at hshort
    · exact hplain braceless_nil
    · cases hb : isBrace b with
      | true => exact hbrace b [] rfl hb
      | false => exact hplain (by simpa using hb)
  · exact hplain h

theorem Found.Tame.shown {f g : Found} (hf : f.Tame name) {conversion : Option Char}
    (h : f.convert? conversion = some g) : Shown name g.display := by
  have hquoted : ∀ ascii, Shown name (f.quoted ascii) := by
    intro ascii
    cases f with
    | text cs => exact shown_quoted ascii hf
    | _ => exact .tame hf.displayed
  unfold Found.convert? at h
  split at h
  · cases h; exact .tame hf.displayed
  · cases h; exact .tame hf.displayed
  · cases h; exact hquoted false
  · cases h; exact hquoted true
  · cases h

variable {m : Char} {rest : List Char} (hname : Braceless name) (hne : name ≠ []) (hm : isBrace m = false)
include hne hm

/-- Such a text does not begin like a field in which something follows the name. -/
theorem Shown.not_opening (h : Shown name cs) : ¬ '\x7b' :: (name ++ [m]) <+: cs := by
  intro hstart
  cases h with
  | tame h =>
    obtain rfl | hshort | hplain := h
    · obtain ⟨ds, hds⟩ := hstart
      have hend : [m] ++ ds = ['\x7d'] := by simpa [braced] using hds
      obtain rfl : m = '\x7d' := by simp_all
      cases hm
    · have hlength := hstart.length_le
      have hpos := List.length_pos_iff.mpr hne
      simp only [List.length_cons, List.length_append, List.length_nil] at hlength
      omega
    · exact absurd (hplain _ (hstart.subset List.mem_cons_self)) (by decide)
  | quoted rest hquote hb =>
    obtain rfl := (List.cons_prefix_cons.mp hstart).1
    cases hquote

include hname

/-- Nor does it begin with the name and go on to a closing brace. -/
theorem Shown.not_naming (h : Shown name cs) (hclose : '\x7d' ∈ rest) : ¬ name ++ m :: rest <+: cs := by
  intro hstart
  obtain ⟨c, name, rfl⟩ := List.exists_cons_of_ne_nil hne
  cases h with
  | tame h =>
    obtain rfl | hshort | hplain := h
    · obtain rfl : c = '\x7b' := (List.cons_prefix_cons.mp hstart).1
      exact absurd (hname _ List.mem_cons_self) (by decide)
    · have hlength := hstart.length_le
      simp only [List.cons_append, List.length_cons, List.length_append] at hlength
      omega
    · exact absurd (hplain '\x7d' (hstart.subset (by simp [hclose]))) (by decide)
  | @quoted quote b rest' hquote hb =>
    have hsecond := (List.cons_prefix_cons.mp hstart).2
    cases name with
    | nil =>
      obtain rfl : m = b := (List.cons_prefix_cons.mp hsecond).1
      rw [hm] at hb
      cases hb
    | cons d name =>
      obtain rfl : d = b := (List.cons_prefix_cons.mp hsecond).1
      rw [hname d (by simp)] at hb
      cases hb

/-- Cut and filled up it never becomes a field in which something follows the name. -/
theorem Shown.filled_ne (h : Shown name cs) {cut : List Char} (hcut : cut <+: cs) (fill : Char)
    (before after : Nat) :
    List.replicate before fill ++ cut ++ List.replicate after fill ≠
      '\x7b' :: (name ++ m :: (rest ++ ['\x7d'])) := by
  intro heq
  have hlast : after ≠ 0 → fill = '\x7d' := by
    intro hafter
    obtain ⟨n, rfl⟩ := Nat.exists_eq_succ_of_ne_zero hafter
    have hsource : '\x7b' :: (name ++ m :: (rest ++ ['\x7d'])) =
        ('\x7b' :: (name ++ m :: rest)) ++ ['\x7d'] := by simp
    rw [List.replicate_succ', ← List.append_assoc, hsource] at heq
    exact List.singleton_inj.mp (List.append_inj' heq rfl).2
  cases before with
  | zero =>
    -- the fill is a closing brace, so that it does not reach back to `m`
    have hfill : after ≠ 0 → fill ≠ m := by
      rintro hafter rfl
      rw [hlast hafter] at hm
      cases hm
    have hsplit : cut ++ List.replicate after fill =
        (('\x7b' :: name) ++ [m]) ++ (rest ++ ['\x7d']) := by
      simpa using heq
    have hstart := prefix_of_append_replicate hfill hsplit
    exact h.not_opening hne hm (hstart.trans hcut)
  | succ before =>
    obtain ⟨rfl, heq⟩ : fill = '\x7b' ∧ List.replicate before fill ++ cut ++ List.replicate after fill =
        name ++ m :: (rest ++ ['\x7d']) := by
      simpa [List.replicate_succ] using heq
    obtain rfl : after = 0 := by
      by_contra hafter
      exact absurd (hlast hafter) (by decide)
    obtain rfl : before = 0 := by
      cases before with
      | zero => rfl
      | succ before =>
        obtain ⟨c, cs', rfl⟩ := List.exists_cons_of_ne_nil hne
        obtain rfl : '\x7b' = c := (List.cons.inj heq).1
        exact absurd (hname _ List.mem_cons_self) (by decide)
    have hstart : name ++ m :: (rest ++ ['\x7d']) <+: cs := by
      simpa [← heq] using hcut
    exact h.not_naming hname hne hm (by simp) hstart

end

/-! ## Layouts -/

theorem closing_mem_leadingAlignment {cs : List Char} (h : '\x7d' ∈ cs.tail) :
    '\x7d' ∈ (leadingAlignment cs).2.2 := by
  unfold leadingAlignment
  split
  · rename_i c d cs
    split
    · rename_i a ha
      obtain rfl | h := List.mem_cons.mp h
      · cases ha
      · exact h
    · split
      · exact h
      · exact List.mem_cons_of_mem c h
  · cases h
  · cases h

theorem closing_mem_leadingNumber {cs rest : List Char} {n : Option Nat}
    (h : leadingNumber? cs = some (n, rest)) (hclose : '\x7d' ∈ cs) : '\x7d' ∈ rest := by
  unfold leadingNumber? at h
  dsimp only at h
  split at h
  · cases h
    rw [drop_length_takeWhile]
    rw [← @List.takeWhile_append_dropWhile _ (fun c => (Text.digitValue? c).isSome) cs] at hclose
    obtain hclose | hclose := List.mem_append.mp hclose
    · exact absurd (List.all_eq_true.mp List.all_takeWhile _ hclose) (by decide)
    · exact hclose
  · cases h

/-- A closing brace fills a text up at most: none follows the first character of a layout. -/
theorem closing_not_mem_layout {cs : List Char} {l : Layout} (h : layout? cs = some l) :
    '\x7d' ∉ cs.tail := by
  intro hclose
  replace hclose := closing_mem_leadingAlignment hclose
  have hend : ∀ {ds : List Char} {m : Layout}, '\x7d' ∈ ds →
      (if ds.isEmpty || ds == ['s'] then some m else none) ≠ some l := by
    intro ds m hds hl
    obtain ⟨hends, -⟩ := Option.ite_none_right_eq_some.mp hl
    obtain rfl | rfl : ds = [] ∨ ds = ['s'] := by simpa using hends
    all_goals exact absurd hds (by decide)
  unfold layout? at h
  generalize leadingAlignment cs = lead at h hclose
  obtain ⟨fill?, alignment?, rest⟩ := lead
  dsimp only at h hclose
  obtain ⟨⟨width, rest'⟩, hwidth, h⟩ := Option.bind_eq_some_iff.mp h
  replace hclose := closing_mem_leadingNumber hwidth <| by
    split
    · exact List.mem_of_ne_of_mem (by decide) hclose
    · exact hclose
  dsimp only at h
  split at h
  · obtain ⟨⟨limit?, rest''⟩, hlimit, h⟩ := Option.bind_eq_some_iff.mp h
    replace hclose := closing_mem_leadingNumber hlimit (List.mem_of_ne_of_mem (by decide) hclose)
    cases limit? with
    | none => cases h
    | some limit => exact hend hclose h
  · exact hend hclose h

/-! ## Fields -/

/-- A field ends with its brace, which stands right after the name and its steps when there is
neither a conversion nor a layout. -/
theorem Tail.exists_front {conversion : Option Char} {layout tail : List Char}
    (h : Tail conversion layout tail) : ∃ front, tail = front ++ ['\x7d'] ∧
      (∀ m ∈ front.head?, isBrace m = false) ∧ (front = [] → conversion = none ∧ layout = []) := by
  cases h with
  | plain => exact ⟨[], rfl, by simp, fun _ => ⟨rfl, rfl⟩⟩
  | layout layout => exact ⟨':' :: layout, rfl, by simp [isBrace], by simp⟩
  | conversion c => exact ⟨['!', c], rfl, by simp [isBrace], by simp⟩
  | both c layout => exact ⟨'!' :: c :: ':' :: layout, rfl, by simp [isBrace], by simp⟩

section
variable {p : Placeholder} {body : List Char}

/-- What follows the name of a field: its closing brace and nothing else to be done, or something
before that brace. -/
theorem IsField.bare_or_longer (h : IsField p body) :
    (body = p.name ++ ['\x7d'] ∧ p.steps = [] ∧ p.conversion = none ∧ p.layout = []) ∨
    ∃ m rest, isBrace m = false ∧ body = p.name ++ m :: (rest ++ ['\x7d']) := by
  obtain ⟨fuel, more, tail, rfl, hsteps, hmore, htail⟩ := h.eq
  obtain ⟨front, rfl, hfront, hempty⟩ := htail.exists_front
  cases more with
  | cons m more =>
    refine Or.inr ⟨m, more ++ front, ?_, by simp⟩
    obtain rfl | rfl : m = '.' ∨ m = '[' := by simpa [isStepMark] using hmore m rfl
    all_goals rfl
  | nil =>
    cases front with
    | nil =>
      unfold steps at hsteps
      exact Or.inl ⟨rfl, (Option.some.inj hsteps).symm, hempty rfl⟩
    | cons m front => exact Or.inr ⟨m, front, hfront m rfl, rfl⟩

variable {values : List (String × String)} {fillLayout : Placeholder → Filling (List Char)}
  {text : List Char}

theorem exists_layOut (h : fillPiece values fillLayout (.placeholder p) = .ok text) :
    ∃ found layout g, p.steps.foldlM Found.step? (.text (valueOf values p.name)) = some found ∧
      found.convert? p.conversion = some g ∧ fillLayout p = .ok layout ∧ g.layOut layout = .ok text := by
  obtain ⟨g, hg, h⟩ := exists_of_bind h
  obtain ⟨layout, hlayout, h⟩ := exists_of_bind h
  obtain ⟨found, hfound, hconv⟩ := Option.bind_eq_some_iff.mp (Filling.ofOption_eq_ok.mp hg)
  exact ⟨found, layout, g, hfound, hconv, hlayout, h⟩

theorem closing_not_mem_of_layOut {g : Found} {layout : List Char} (h : g.layOut layout = .ok text) :
    '\x7d' ∉ layout.tail := by
  unfold Found.layOut at h
  split at h
  · rename_i hempty
    rw [List.isEmpty_iff.mp hempty]
    exact List.not_mem_nil
  · split at h
    · obtain ⟨l, hl, -⟩ := exists_of_bind h
      exact closing_not_mem_layout (Filling.ofOption_eq_ok.mp hl)
    · cases h

/-- A text laid out is cut and filled up. -/
theorem exists_cut {g : Found} {layout : List Char} (h : g.layOut layout = .ok text) :
    ∃ cut fill before after, cut <+: g.display ∧
      text = List.replicate before fill ++ cut ++ List.replicate after fill := by
  unfold Found.layOut at h
  split at h
  · cases h
    exact ⟨g.display, ' ', 0, 0, List.prefix_rfl, by simp⟩
  · split at h
    · rename_i cs
      obtain ⟨l, -, h⟩ := exists_of_bind h
      split at h
      · cases h
      · cases h
        refine ⟨_, _, _, _, ?_, rfl⟩
        split
        · exact List.take_prefix _ cs
        · exact List.prefix_rfl
    · cases h

/-- A field of a name without a value is left as it is written exactly when there is nothing to it but
the name. -/
theorem left_iff_bare (hp : IsField p body) (hv : values.lookup (String.ofList p.name) = none)
    (hplain : p.nested = false → fillLayout p = .ok p.layout)
    (h : fillPiece values fillLayout (.placeholder p) = .ok text) :
    text = '\x7b' :: body ↔ body = p.name ++ ['\x7d'] := by
  obtain ⟨found, layout, g, hfound, hg, hlayout, htext⟩ := exists_layOut h
  have hvalue : valueOf values p.name = braced p.name := by
    rw [valueOf, hv]
    rfl
  rw [hvalue] at hfound
  obtain ⟨rfl, hsteps, hconv, hempty⟩ | ⟨m, rest, hm, rfl⟩ := hp.bare_or_longer
  · refine iff_of_true ?_ rfl
    have hnested : p.nested = false := by
      rw [hp.nested, hempty]
      rfl
    rw [hplain hnested, hempty] at hlayout
    rw [hsteps] at hfound
    rw [hconv] at hg
    cases hfound
    cases hg
    cases hlayout
    cases htext
    rfl
  · refine iff_of_false ?_ ?_
    · have hstart : Found.Tame p.name (.text (braced p.name)) := Or.inl rfl
      obtain ⟨cut, fill, before, after, hcut, rfl⟩ := exists_cut htext
      exact ((hstart.of_steps hfound).shown hg).filled_ne (fun c hc => (hp.plain c hc).1)
        hp.named hm hcut fill before after
    · intro hbare
      obtain rfl := (List.cons.inj (List.append_cancel_left hbare)).1
      cases hm

end

end Prompt

namespace Prompts

open Prompt
open Entries (field?_cons_str)

def knownNames : List String := ["risk_list", "json_schema", "language", "code_content", "file_label"]

theorem lookup_of_unknown {p : Prompts} {q : Question} {values : List (String × String)}
    (h : p.values q = .ok values) {name : String} (hname : name ∉ knownNames) :
    values.lookup name = none := by
  obtain ⟨risks, schema, -, -, rfl⟩ := values_eq_ok_iff.mp h
  rw [List.lookup_eq_none_iff]
  intro e he
  rw [bne_iff_ne]
  rintro rfl
  exact hname (show e.1 ∈ (p.known q risks schema).map Prod.fst from List.mem_map_of_mem he)

/-- What a field of an unknown name has become is what is written, if and only if only the name is. -/
def LeftIffBare (s : Segment) (text : List Char) : Prop :=
  ∀ f, s.piece = .placeholder f → String.ofList f.name ∉ knownNames →
    (text = s.source ↔ s.source = braced f.name)

/-- The layout of a field is filled in as a template, and no field of an unknown name in it is left as it
is written. -/
def ReplacedInLayout (values : List (String × String)) (s : Segment) : Prop :=
  ∀ f, s.piece = .placeholder f → f.nested = true → ∃ segs texts, Reads f.layout segs ∧
    List.Forall₂ (fun inner text => fillPiece values (filledLayout values 0) inner.piece = .ok text ∧
      ∀ g, inner.piece = .placeholder g → String.ofList g.name ∉ knownNames → text ≠ inner.source)
      segs texts

section
variable {p : Prompts} {q : Question} {values : List (String × String)}

theorem leftIffBare_of_filled (hv : p.values q = .ok values) {cs : List Char} {segs : List Segment}
    (hsegs : Reads cs segs) {depth : Nat} {s : Segment} (hs : s ∈ segs) {text : List Char}
    (h : fillPiece values (filledLayout values depth) s.piece = .ok text) : LeftIffBare s text := by
  intro f hf hname
  obtain ⟨body, hsource, hbody⟩ := hsegs.isField s hs f hf
  rw [hf] at h
  have hplain : f.nested = false → filledLayout values depth f = .ok f.layout := by
    intro hnested
    rw [filledLayout, hnested]
    rfl
  rw [hsource, left_iff_bare hbody (lookup_of_unknown hv hname) hplain h, braced, List.cons_inj_right]

theorem replacedInLayout_of_filled (hv : p.values q = .ok values) {s : Segment} {text : List Char}
    (h : fillPiece values (filledLayout values 1) s.piece = .ok text) : ReplacedInLayout values s := by
  intro f hf hnested
  rw [hf] at h
  obtain ⟨_, layout, g, -, -, hlayout, htext'⟩ := exists_layOut h
  rw [filledLayout, if_pos hnested] at hlayout
  obtain ⟨segs, texts, hsegs, htexts, rfl⟩ := fillAt_eq_ok_iff.mp hlayout
  refine ⟨segs, texts, hsegs, forall₂_of_mem htexts fun inner hinner text htext h => ⟨h, ?_⟩⟩
  intro f' hf' hname hleft
  -- left as it is written, it would bring its closing brace into the layout
  have hbare : text = braced f'.name := by
    rw [hleft]
    exact (leftIffBare_of_filled hv hsegs hinner h f' hf' hname).mp hleft
  obtain ⟨before, after, rfl⟩ := List.append_of_mem htext
  refine closing_not_mem_of_layOut htext' ?_
  rw [List.flatten_append, List.flatten_cons, hbare, braced]
  cases before.flatten <;> simp

end

/-- **Fields of unknown names.** In a prompt from a template that is filled in, a field whose name is none
of the five is left as it is written exactly when nothing but its name stands between the braces; a
field in the layout of another never is. -/
theorem unknown_left_iff_bare {p : Prompts} {q : Question} {key template prompt : String}
    (ht : p.template key = .str template) (hb : (p.build q key).run = ⟨.ok prompt, []⟩) :
    ∃ values segs texts, p.values q = .ok values ∧
      Reads template.toList segs ∧ (segs.map Segment.source).flatten = template.toList ∧
      prompt = String.ofList texts.flatten ∧
      List.Forall₂ (fun s text => fillPiece values (filledLayout values 1) s.piece = .ok text ∧
        LeftIffBare s text ∧ ReplacedInLayout values s) segs texts := by
  obtain ⟨values, hv, hfill⟩ := build_eq_ok_iff.mp hb
  rw [ht, fillTemplate, Prompt.fill] at hfill
  obtain ⟨out, hout, rfl⟩ : ∃ out, Prompt.fillAt values 2 template.toList = .ok out ∧
      String.ofList out = prompt := by
    cases hout : Prompt.fillAt values 2 template.toList with
    | error u =>
      rw [hout] at hfill
      cases hfill
    | ok out =>
      rw [hout] at hfill
      exact ⟨out, rfl, Except.ok.inj hfill⟩
  obtain ⟨segs, texts, hsegs, htexts, rfl⟩ := fillAt_eq_ok_iff.mp hout
  refine ⟨values, segs, texts, hv, hsegs, hsegs.sources, rfl, ?_⟩
  exact forall₂_of_mem htexts fun s hs text _ h =>
    ⟨h, leftIffBare_of_filled hv hsegs hs h, replacedInLayout_of_filled hv h⟩

/-! ## A name in quotes -/

def ticketField : Placeholder := ⟨"ticket".toList, [], some 'r', [], false⟩

def ticketTemplate : String := "\x7bticket!r\x7d"

def ticketPrompts : Prompts := ⟨[(.str "default", .str ticketTemplate)], "en"⟩

def ticketQuestion : Question := ⟨"x", .list [], .map [(.str "type", .str "object")], none⟩

theorem reads_ticketTemplate :
    Reads ticketTemplate.toList [⟨ticketTemplate.toList, .placeholder ticketField⟩] := by
  have hbody : placeholder? ("ticket!r\x7d".toList ++ []) = some (ticketField, []) := by decide
  exact .field hbody .nil

theorem template_ticketPrompts : ticketPrompts.template "default" = .str ticketTemplate := by
  simp [template, ticketPrompts, field?_cons_str]

theorem build_ticketPrompts :
    (ticketPrompts.build ticketQuestion "default").run = ⟨.ok "'\x7bticket\x7d'", []⟩ := by
  have hr : descriptions ticketQuestion.risks = .ok [] := descriptions_names []
  have hs : Json.write? .compact ticketQuestion.schema = some "\x7b\"type\": \"object\"\x7d" := by decide
  refine build_eq_ok_iff.mpr ⟨_, values_eq_known hr hs, ?_⟩
  have hfill : Prompt.fillAt (ticketPrompts.known ticketQuestion [] "\x7b\"type\": \"object\"\x7d") 2
      ticketTemplate.toList = .ok "'\x7bticket\x7d'".toList :=
    fillAt_eq_ok_iff.mpr ⟨_, ["'\x7bticket\x7d'".toList], reads_ticketTemplate, .cons (by decide) .nil,
      by decide⟩
  rw [template_ticketPrompts, fillTemplate, Prompt.fill, hfill]
  rfl

/-- What is said of a field is said of one that asks for quotes. -/
theorem unknown_left_iff_bare_ticket :
    ticketPrompts.template "default" = .str ticketTemplate ∧
    (ticketPrompts.build ticketQuestion "default").run = ⟨.ok "'\x7bticket\x7d'", []⟩ ∧
    ∃ values segs texts, ticketPrompts.values ticketQuestion = .ok values ∧
      Reads ticketTemplate.toList segs ∧ "'\x7bticket\x7d'" = String.ofList texts.flatten ∧
      List.Forall₂ LeftIffBare segs texts := by
  obtain ⟨values, segs, texts, hv, hsegs, -, hprompt, htexts⟩ :=
    unknown_left_iff_bare template_ticketPrompts build_ticketPrompts
  exact ⟨template_ticketPrompts, build_ticketPrompts, values, segs, texts, hv, hsegs, hprompt,
    htexts.imp fun _ _ h => h.2.1⟩

/-- A template that is filled in and asks for an unknown name in quotes: the quotes are put around the
name in its braces, and what is written stands nowhere in the prompt. -/
theorem unknown_not_left :
    ticketPrompts.template "default" = .str ticketTemplate ∧
    Reads ticketTemplate.toList [⟨ticketTemplate.toList, .placeholder ticketField⟩] ∧
    String.ofList ticketField.name ∉ knownNames ∧
    ∃ prompt, (ticketPrompts.build ticketQuestion "default").run = ⟨.ok prompt, []⟩ ∧
      ¬ ticketTemplate.toList <:+: prompt.toList := by
  refine ⟨template_ticketPrompts, reads_ticketTemplate, by decide, _, build_ticketPrompts, ?_⟩
  intro hinfix
  have hmark : '!' ∈ "'\x7bticket\x7d'".toList := hinfix.subset (by decide)
  exact absurd hmark (by decide)

end Prompts

end SecurityScan
