import Mathlib.Data.List.Infix
import SecurityScan.Proofs.Delivery

/-!
# Fences undone

A fenced reply can be read in several ways: more or fewer blanks before its body, with the name of the
language or without, and with any closing fence behind which only blanks are left. The body that is
taken is the one of the first way, with most blanks in front, the name read where there is one, and
then the shortest body. Its closing fence is the last one, whatever stands in the body.
-/

namespace SecurityScan

namespace Reply

open Text (isBlank trimBy trimLeftBy trimRightBy)

/-! ## Ways to read a fence -/

/-- What follows blanks at the start of a text, as many as there are first and none last. -/
def afterBlanks : List Char → List (List Char)
  | [] => [[]]
  | c :: cs => if isBlank c then afterBlanks cs ++ [c :: cs] else [c :: cs]

/-- What follows a word at the start of a text, or the text itself. -/
def afterOptional (word cs : List Char) : List (List Char) := (afterStart? word cs).toList ++ [cs]

/-- Whether a text is a closing fence with blanks around it, which may end at a last line break. -/
def isClosing (cs : List Char) : Bool :=
  ((afterOptional ['\n'] cs).flatMap fun r =>
    (afterBlanks r).flatMap fun r =>
    (afterStart? fence r).toList.flatMap afterBlanks).any fun r => r == [] || r == ['\n']

/-- The bodies in front of a closing fence, the shortest first. -/
def bodiesOf (cs : List Char) : List (List Char) :=
  (cs.tails.filter isClosing).map fun rest => cs.take (cs.length - rest.length)

/-- The bodies that a fenced text can have, in the order in which they are tried. -/
def bodies (cs : List Char) : List (List Char) :=
  (afterBlanks cs).flatMap fun r =>
  (afterStart? fence r).toList.flatMap fun r =>
  (afterOptional languageTag r).flatMap fun r =>
  (afterBlanks r).flatMap fun r =>
  (afterOptional ['\n'] r).flatMap bodiesOf

theorem mem_afterBlanks {r cs : List Char} :
    r ∈ afterBlanks cs ↔ ∃ w, Blank w ∧ cs = w ++ r := by
  induction cs with
  | nil =>
    simp only [afterBlanks, List.mem_singleton]
    constructor
    · rintro rfl
      exact ⟨[], List.forall_mem_nil _, rfl⟩
    · rintro ⟨w, -, h⟩
      exact (List.append_eq_nil_iff.mp h.symm).2
  | cons c cs ih =>
    rw [afterBlanks]
    split
    · rename_i hc
      rw [List.mem_append, ih, List.mem_singleton]
      constructor
      · rintro (⟨w, hw, rfl⟩ | rfl)
        · exact ⟨c :: w, List.forall_mem_cons.mpr ⟨hc, hw⟩, rfl⟩
        · exact ⟨[], List.forall_mem_nil _, rfl⟩
      · rintro ⟨w, hw, h⟩
        cases w with
        | nil => exact Or.inr h.symm
        | cons d w =>
          obtain ⟨rfl, rfl⟩ := List.cons.inj h
          exact Or.inl ⟨w, (List.forall_mem_cons.mp hw).2, rfl⟩
    · rename_i hc
      rw [List.mem_singleton]
      constructor
      · rintro rfl
        exact ⟨[], List.forall_mem_nil _, rfl⟩
      · rintro ⟨w, hw, h⟩
        cases w with
        | nil => exact h.symm
        | cons d w =>
          obtain ⟨rfl, -⟩ := List.cons.inj h
          exact absurd (hw c List.mem_cons_self) hc

theorem head?_afterBlanks (cs : List Char) :
    (afterBlanks cs).head? = some (trimLeftBy isBlank cs) := by
  induction cs with
  | nil => rfl
  | cons c cs ih =>
    rw [afterBlanks, trimLeftBy, List.dropWhile_cons]
    split
    · rw [List.head?_append, ih]
      rfl
    · rfl

/-- What must not begin with a blank is only found behind all blanks. -/
theorem flatMap_afterBlanks {α : Type} {f : List Char → List α}
    (h : ∀ c cs, isBlank c = true → f (c :: cs) = []) (cs : List Char) :
    (afterBlanks cs).flatMap f = f (trimLeftBy isBlank cs) := by
  induction cs with
  | nil => simp [afterBlanks, trimLeftBy]
  | cons c cs ih =>
    rw [afterBlanks, trimLeftBy, List.dropWhile_cons]
    split
    · rename_i hc
      rw [List.flatMap_append, ih, List.flatMap_singleton, h c cs hc, List.append_nil]
      rfl
    · rw [List.flatMap_singleton]

theorem afterStart?_eq_some {start cs rest : List Char} :
    afterStart? start cs = some rest ↔ cs = start ++ rest := by
  constructor
  · intro h
    obtain ⟨hstart, hrest⟩ := Option.ite_none_right_eq_some.mp h
    obtain ⟨r, rfl⟩ := List.isPrefixOf_iff_prefix.mp hstart
    rw [List.drop_left] at hrest
    rw [Option.some.inj hrest]
  · rintro rfl
    exact afterStart?_append start rest

theorem beforeEnd?_eq_some {last cs front : List Char} :
    beforeEnd? last cs = some front ↔ cs = front ++ last := by
  constructor
  · intro h
    obtain ⟨hlast, hfront⟩ := Option.ite_none_right_eq_some.mp h
    obtain ⟨r, rfl⟩ := List.isSuffixOf_iff_suffix.mp hlast
    rw [List.length_append, Nat.add_sub_cancel, List.take_left] at hfront
    rw [Option.some.inj hfront]
  · rintro rfl
    exact beforeEnd?_append front last

theorem head?_afterOptional (word cs : List Char) :
    (afterOptional word cs).head? = some ((afterStart? word cs).getD cs) := by
  rw [afterOptional]
  cases afterStart? word cs with
  | none => rfl
  | some rest => rfl

theorem mem_afterOptional {word r cs : List Char} (h : r ∈ afterOptional word cs) :
    ∃ w, (w = [] ∨ w = word) ∧ cs = w ++ r := by
  obtain h | h := List.mem_append.mp h
  · exact ⟨word, Or.inr rfl, afterStart?_eq_some.mp (Option.mem_toList.mp h)⟩
  · exact ⟨[], Or.inl rfl, (List.mem_singleton.mp h).symm⟩

/-! ## Closing fences -/

/-- A text ends with a fence, apart from blanks. -/
def Closes (cs : List Char) : Prop := ∃ body w, Blank w ∧ cs = body ++ (fence ++ w)

theorem isClosing_iff {cs : List Char} :
    isClosing cs = true ↔ ∃ w w', Blank w ∧ Blank w' ∧ cs = w ++ (fence ++ w') := by
  have hline : Blank ['\n'] := List.forall_mem_singleton.mpr rfl
  simp only [isClosing, List.any_eq_true, List.mem_flatMap, mem_afterBlanks, Option.mem_toList,
    afterStart?_eq_some]
  constructor
  · rintro ⟨last, ⟨r, hr, r', ⟨w, hw, rfl⟩, r'', rfl, w', hw', rfl⟩, hlast⟩
    have hlast : Blank last := by
      obtain h | h := Bool.or_eq_true_iff.mp hlast
      · rw [eq_of_beq h]
        exact List.forall_mem_nil _
      · rwa [eq_of_beq h]
    obtain ⟨line, hl, rfl⟩ := mem_afterOptional hr
    refine ⟨line ++ w, w' ++ last, ?_, List.forall_mem_append.mpr ⟨hw', hlast⟩, ?_⟩
    · refine List.forall_mem_append.mpr ⟨?_, hw⟩
      obtain rfl | rfl := hl
      · exact List.forall_mem_nil _
      · exact hline
    · simp
  · rintro ⟨w, w', hw, hw', rfl⟩
    exact ⟨[], ⟨_, List.mem_append_right _ (List.mem_singleton_self _), _, ⟨w, hw, rfl⟩, w', rfl,
      w', hw', (List.append_nil w').symm⟩, rfl⟩

theorem bodiesOf_eq_nil_iff {cs : List Char} : bodiesOf cs = [] ↔ ¬Closes cs := by
  simp only [bodiesOf, List.map_eq_nil_iff, List.filter_eq_nil_iff, List.mem_tails]
  constructor
  · rintro h ⟨body, w, hw, rfl⟩
    exact h (fence ++ w) (List.suffix_append ..)
      (isClosing_iff.mpr ⟨[], w, List.forall_mem_nil _, hw, rfl⟩)
  · rintro h rest ⟨front, rfl⟩ hrest
    obtain ⟨w, w', -, hw', rfl⟩ := isClosing_iff.mp hrest
    exact h ⟨front ++ w, w', hw', by rw [List.append_assoc]⟩

/-- What holds no backtick holds no part of the closing fence. -/
theorem closes_append_iff {w cs : List Char} (hw : '`' ∉ w) : Closes (w ++ cs) ↔ Closes cs := by
  constructor
  · rintro ⟨body, w', hw', h⟩
    obtain ⟨front, -, rfl⟩ | ⟨back, rfl, hback⟩ := List.append_eq_append_iff.mp h
    · exact ⟨front, w', hw', rfl⟩
    · cases back with
      | nil => exact ⟨[], w', hw', hback.symm⟩
      | cons c back =>
        obtain rfl : '`' = c := (List.cons.inj hback).1
        exact absurd (by simp) hw
  · rintro ⟨body, w', hw', rfl⟩
    exact ⟨w ++ body, w', hw', by rw [List.append_assoc]⟩

theorem trimRightBy_fence (front : List Char) {w : List Char} (hw : Blank w) :
    trimRightBy isBlank (front ++ (fence ++ w)) = front ++ fence := by
  rw [← List.append_assoc, Text.trimRightBy_append hw]
  refine Text.trimRightBy_eq_self fun c hc => ?_
  obtain ⟨d, hd, hblank⟩ := exists_getLast?_fence front
  rwa [Option.some.inj (hc.symm.trans hd)]

/-- No closing fence begins before blanks that something else stands in front of. -/
theorem not_isClosing {b blanks w : List Char} (hb : ∃ c ∈ b.getLast?, isBlank c = false)
    (hw : Blank w) : isClosing (b ++ (blanks ++ (fence ++ w))) = false := by
  refine Bool.eq_false_iff.mpr fun h => ?_
  obtain ⟨u, u', hu, hu', heq⟩ := isClosing_iff.mp h
  have hsame : b ++ blanks = u := by
    -- without the blanks at their ends both sides end with the fence
    have htrim := congrArg (trimRightBy isBlank) heq
    rw [← List.append_assoc b blanks, trimRightBy_fence _ hw, trimRightBy_fence _ hu'] at htrim
    exact List.append_cancel_right htrim
  obtain ⟨c, hc, hblank⟩ := hb
  have hmem : c ∈ u := hsame ▸ List.mem_append_left _ (List.mem_of_getLast? hc)
  rw [hu c hmem] at hblank
  cases hblank

theorem find?_tails_closing {b blanks w : List Char} (hb : ∀ c ∈ b.getLast?, isBlank c = false)
    (hblanks : Blank blanks) (hw : Blank w) :
    (b ++ (blanks ++ (fence ++ w))).tails.find? isClosing = some (blanks ++ (fence ++ w)) := by
  induction b with
  | nil =>
    have hclosing : isClosing (blanks ++ (fence ++ w)) = true :=
      isClosing_iff.mpr ⟨blanks, w, hblanks, hw, rfl⟩
    rw [List.nil_append]
    cases hr : blanks ++ (fence ++ w) with
    | nil => simp [fence] at hr
    | cons c r => rw [List.tails_cons, List.find?_cons_of_pos (hr ▸ hclosing)]
  | cons c b ih =>
    have hlast : ∃ d ∈ (c :: b).getLast?, isBlank d = false :=
      ⟨_, List.getLast?_eq_some_getLast (List.cons_ne_nil c b),
        hb _ (List.getLast?_eq_some_getLast (List.cons_ne_nil c b))⟩
    have hopen : isClosing (c :: (b ++ (blanks ++ (fence ++ w)))) = false :=
      not_isClosing hlast hw
    rw [List.cons_append, List.tails_cons, List.find?_cons_of_neg (by simp [hopen])]
    refine ih fun d hd => hb d ?_
    rw [List.getLast?_cons, hd]
    rfl

theorem head?_bodiesOf (body : List Char) {w : List Char} (hw : Blank w) :
    (bodiesOf (body ++ (fence ++ w))).head? = some (trimRightBy isBlank body) := by
  obtain ⟨blanks, hblanks, hbody⟩ := Text.exists_trimRightBy isBlank body
  have hfind : (body ++ (fence ++ w)).tails.find? isClosing = some (blanks ++ (fence ++ w)) := by
    have hfront := find?_tails_closing (b := trimRightBy isBlank body)
      (fun c hc => Text.not_of_getLast?_trimRightBy hc) hblanks hw
    rwa [← List.append_assoc, ← hbody] at hfront
  rw [bodiesOf, List.head?_map, List.head?_filter, hfind, Option.map_some]
  conv_lhs => rw [hbody]
  rw [List.append_assoc, List.length_append, Nat.add_sub_cancel, List.take_left]

/-! ## The first way -/

theorem not_mem_of_blank {w : List Char} (hw : Blank w) : '`' ∉ w := fun h =>
  absurd (hw '`' h) (by decide)

section
variable {f : List Char → List (List Char)} (hf : ∀ r, f r = [] ↔ ¬Closes r)
include hf

/-- Of texts that close alike the first one decides. -/
theorem flatMap_of_alike {rs : List (List Char)} {first cs : List Char} (hfirst : rs.head? = some first)
    (halike : ∀ r ∈ rs, Closes r ↔ Closes cs) :
    (rs.flatMap f = [] ↔ ¬Closes cs) ∧ (rs.flatMap f).head? = (f first).head? := by
  obtain ⟨more, rfl⟩ := List.head?_eq_some_iff.mp hfirst
  have hempty : ∀ r ∈ first :: more, (f r = [] ↔ ¬Closes cs) := fun r hr => by
    rw [hf, halike r hr]
  constructor
  · rw [List.flatMap_eq_nil_iff]
    exact ⟨fun h => (hempty first List.mem_cons_self).mp (h first List.mem_cons_self),
      fun h r hr => (hempty r hr).mpr h⟩
  · rw [List.flatMap_cons, List.head?_append]
    cases hne : f first with
    | nil =>
      have hmore : more.flatMap f = [] := List.flatMap_eq_nil_iff.mpr fun r hr =>
        (hempty r (List.mem_cons_of_mem first hr)).mpr ((hempty first List.mem_cons_self).mp hne)
      rw [hmore]
      rfl
    | cons body bodies => rfl

theorem flatMap_afterOptional {word : List Char} (hword : '`' ∉ word) (cs : List Char) :
    ((afterOptional word cs).flatMap f = [] ↔ ¬Closes cs) ∧
    ((afterOptional word cs).flatMap f).head? = (f ((afterStart? word cs).getD cs)).head? := by
  refine flatMap_of_alike hf (head?_afterOptional word cs) fun r hr => ?_
  obtain ⟨w, rfl | rfl, rfl⟩ := mem_afterOptional hr
  · exact Iff.rfl
  · rw [closes_append_iff hword]

theorem flatMap_afterAllBlanks (cs : List Char) :
    ((afterBlanks cs).flatMap f = [] ↔ ¬Closes cs) ∧
    ((afterBlanks cs).flatMap f).head? = (f (trimLeftBy isBlank cs)).head? := by
  refine flatMap_of_alike hf (head?_afterBlanks cs) fun r hr => ?_
  obtain ⟨w, hw, rfl⟩ := mem_afterBlanks.mp hr
  rw [closes_append_iff (not_mem_of_blank hw)]

end

theorem head?_bodies (cs : List Char) :
    (bodies cs).head? = (afterStart? fence (trimLeftBy isBlank cs)).bind fun r =>
      (bodiesOf (trimLeftBy isBlank ((afterStart? languageTag r).getD r))).head? := by
  have hline := flatMap_afterOptional (fun r => @bodiesOf_eq_nil_iff r) (show '`' ∉ ['\n'] by decide)
  have hblanks := flatMap_afterAllBlanks fun r => (hline r).1
  have htag := flatMap_afterOptional (fun r => (hblanks r).1) (show '`' ∉ languageTag by decide)
  rw [bodies, flatMap_afterBlanks]
  · cases afterStart? fence (trimLeftBy isBlank cs) with
    | none => rfl
    | some r =>
      rw [Option.toList_some, List.flatMap_singleton, (htag r).2, (hblanks _).2, (hline _).2]
      have hnone : afterStart? ['\n'] (trimLeftBy isBlank ((afterStart? languageTag r).getD r)) = none := by
        refine Option.eq_none_iff_forall_ne_some.mpr fun rest h => ?_
        have hhead := List.head?_dropWhile_not isBlank ((afterStart? languageTag r).getD r)
        rw [← trimLeftBy, afterStart?_eq_some.mp h] at hhead
        have hblank : isBlank '\n' = false := hhead
        exact absurd hblank (by decide)
      rw [hnone]
      rfl
  · intro c cs hc
    have hnone : afterStart? fence (c :: cs) = none := by
      refine Option.eq_none_iff_forall_ne_some.mpr fun rest h => ?_
      obtain rfl : c = '`' := (List.cons.inj (afterStart?_eq_some.mp h)).1
      exact absurd hc (by decide)
    rw [hnone]
    rfl

/-! ## What is taken -/

theorem afterStart?_trimRightBy {word : List Char} (h : ∃ c ∈ word.getLast?, isBlank c = false)
    (cs : List Char) :
    afterStart? word (trimRightBy isBlank cs) = (afterStart? word cs).map (trimRightBy isBlank) := by
  cases hcs : afterStart? word cs with
  | some rest =>
    rw [afterStart?_eq_some.mp hcs, Text.trimRightBy_append_of_getLast? h, afterStart?_append]
    rfl
  | none =>
    refine Option.eq_none_iff_forall_ne_some.mpr fun rest hrest => ?_
    obtain ⟨after, -, happend⟩ := Text.exists_trimRightBy isBlank cs
    rw [afterStart?_eq_some.mp hrest, List.append_assoc] at happend
    rw [afterStart?_eq_some.mpr happend] at hcs
    cases hcs

/-- A fence at the end is a closing one, and the body before it is taken without its blanks. -/
theorem head?_bodiesOf_eq (cs : List Char) :
    (bodiesOf (trimLeftBy isBlank cs)).head? =
      (beforeEnd? fence (trimRightBy isBlank cs)).map (trimBy isBlank) := by
  cases hend : beforeEnd? fence (trimRightBy isBlank cs) with
  | some inner =>
    obtain ⟨after, hafter, hcs⟩ := Text.exists_trimRightBy isBlank cs
    rw [beforeEnd?_eq_some.mp hend, List.append_assoc] at hcs
    have hleft : trimLeftBy isBlank cs = trimLeftBy isBlank inner ++ (fence ++ after) := by
      conv_lhs => rw [hcs, trimLeftBy, List.dropWhile_append]
      split
      · rename_i hempty
        rw [trimLeftBy, List.isEmpty_iff.mp hempty]
        rfl
      · rfl
    rw [hleft, head?_bodiesOf _ hafter]
    rfl
  | none =>
    have hopen : ¬Closes (trimLeftBy isBlank cs) := by
      rintro ⟨body, w, hw, hbody⟩
      obtain ⟨before, hbefore⟩ : trimLeftBy isBlank cs <:+ cs := List.dropWhile_suffix isBlank
      rw [hbody, ← List.append_assoc] at hbefore
      rw [← hbefore, trimRightBy_fence _ hw, beforeEnd?_append] at hend
      cases hend
    rw [bodiesOf_eq_nil_iff.mpr hopen]
    rfl

theorem head?_bodies_eq (cs : List Char) :
    (bodies cs).head? = (fenced? (trimBy isBlank cs)).map (trimBy isBlank) := by
  have hfence : ∃ c ∈ fence.getLast?, isBlank c = false := ⟨_, rfl, by decide⟩
  have htag : ∃ c ∈ languageTag.getLast?, isBlank c = false := ⟨_, rfl, by decide⟩
  rw [head?_bodies, fenced?, trimBy, afterStart?_trimRightBy hfence]
  cases afterStart? fence (trimLeftBy isBlank cs) with
  | none => rfl
  | some r =>
    show _ = Option.map _ (beforeEnd? fence (Option.getD _ (trimRightBy isBlank r)))
    rw [Option.bind_some, head?_bodiesOf_eq, afterStart?_trimRightBy htag, Option.getD_map]

theorem withoutFence_eq (s : String) :
    withoutFence s = (((bodies s.toList).head?).map String.ofList).getD (Text.strip s) := by
  rw [withoutFence, head?_bodies_eq, Text.strip]
  cases fenced? (trimBy isBlank s.toList) with
  | none => rfl
  | some inner => rfl

/-! ## Fences around a text -/

/-- A text between fences on lines of their own, with more text around them. -/
def fencedText (before tag text after : String) : String :=
  before ++ "```" ++ tag ++ "\n" ++ text ++ "\n" ++ "```" ++ after

section
variable {before tag text after : String} (hbefore : Blank before.toList) (hafter : Blank after.toList)
  (htag : tag ∈ ["", "json"])
include hbefore hafter htag

theorem withoutFence_fencedText : withoutFence (fencedText before tag text after) = Text.strip text := by
  have hline : Blank ['\n'] := List.forall_mem_singleton.mpr rfl
  obtain ⟨tagged, htagged⟩ : ∃ tagged, Reply.tag tagged = tag.toList := by
    obtain rfl | rfl : tag = "" ∨ tag = "json" := by simpa using htag
    · exact ⟨false, rfl⟩
    · exact ⟨true, rfl⟩
  have hchars : fencedText before tag text after = String.ofList (before.toList ++
      ((fence ++ (Reply.tag tagged ++ (['\n'] ++ (text.toList ++ ['\n'])) ++ fence)) ++ after.toList)) := by
    rw [← String.toList_inj, htagged]
    simp [fencedText, fence]
  rw [hchars, withoutFence_fence tagged hbefore hafter (by simp), Text.trimBy_append hline,
    Text.trimBy_append_right hline, Text.strip]

end

theorem withoutFence_of_open {text : String}
    (h : ¬fence <+: trimLeftBy isBlank text.toList) : withoutFence text = Text.strip text := by
  have hnone : afterStart? fence (trimLeftBy isBlank text.toList) = none :=
    if_neg fun hstart => h (List.isPrefixOf_iff_prefix.mp hstart)
  rw [withoutFence_eq, head?_bodies, hnone]
  rfl

theorem read_congr {s t : String} (h : withoutFence s = withoutFence t) :
    read (.str s) = read (.str t) := by
  have hdecoded : decoded s = decoded t := by
    delta decoded
    rw [h]
  rw [read, read, hdecoded]

/-- **Taking the fences off undoes putting them on.** What is taken of a text is the first body that it
can have between fences, and without any the text without the blanks at its ends. So the text that fences
were put around comes out whole, though it has backticks or fences of its own; a text that does not
begin with a fence keeps all but the blanks at its ends, and is read alike with fences and without. -/
theorem fences_undone :
    (∀ s, withoutFence s = (((bodies s.toList).head?).map String.ofList).getD (Text.strip s)) ∧
    (∀ before tag text after : String, Blank before.toList → Blank after.toList → tag ∈ ["", "json"] →
      withoutFence (fencedText before tag text after) = Text.strip text ∧
      (¬fence <+: trimLeftBy isBlank text.toList →
        read (.str (fencedText before tag text after)) = read (.str text))) ∧
    ∀ text : String, ¬fence <+: trimLeftBy isBlank text.toList → withoutFence text = Text.strip text := by
  refine ⟨withoutFence_eq, fun before tag text after hbefore hafter htag => ?_, fun text h =>
    withoutFence_of_open h⟩
  have hundone : withoutFence (fencedText before tag text after) = Text.strip text :=
    withoutFence_fencedText hbefore hafter htag
  exact ⟨hundone, fun h => read_congr (hundone.trans (withoutFence_of_open h).symm)⟩

/-- A text that closes a fence and opens another. -/
theorem fences_undone_inside :
    let text := "see ```a```\n```json\n{}\n``` end "
    Blank " \n".toList ∧ Blank "\t".toList ∧ "json" ∈ ["", "json"] ∧
    ¬fence <+: trimLeftBy isBlank text.toList ∧
    withoutFence (fencedText " \n" "json" text "\t") = "see ```a```\n```json\n{}\n``` end" ∧
    read (.str (fencedText " \n" "json" text "\t")) = read (.str text) ∧
    withoutFence text = "see ```a```\n```json\n{}\n``` end" := by
  intro text
  have hbefore : Blank " \n".toList := List.all_eq_true.mp (by decide)
  have hafter : Blank "\t".toList := List.all_eq_true.mp (by decide)
  have hopen : ¬fence <+: trimLeftBy isBlank text.toList := by decide
  have hstrip : Text.strip text = "see ```a```\n```json\n{}\n``` end" := by decide
  obtain ⟨-, hfenced, hplain⟩ := fences_undone
  obtain ⟨hundone, hread⟩ := hfenced " \n" "json" text "\t" hbefore hafter (by decide)
  exact ⟨hbefore, hafter, by decide, hopen, hundone.trans hstrip, hread hopen,
    (hplain text hopen).trans hstrip⟩

end Reply

end SecurityScan
