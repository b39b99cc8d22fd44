import SecurityScan.Proofs.Files

/-!
# Paths in normal form

An absolute path in normal form is settled by its root, one slash or two, and by its names. Every
spelling of a path has such a form, which is its own normal form. The way from a directory to a path
tells the names of the path, and nothing of its root.
-/

namespace SecurityScan

/-! ## Splitting what was joined -/

namespace Text

theorem splitOnChar_joinWithChar {sep : Char} : ∀ {ps : List (List Char)}, ps ≠ [] →
    (∀ p ∈ ps, sep ∉ p) → splitOnChar sep (joinWithChar sep ps) = ps
  | [p], _, h => splitOnChar_of_not_mem (h p (List.mem_singleton_self p))
  | p :: q :: ps, _, h => by
    obtain ⟨hp, hps⟩ := List.forall_mem_cons.mp h
    rw [joinWithChar, splitOnChar_append, splitOnChar_of_not_mem hp,
      splitOnChar_joinWithChar (List.cons_ne_nil q ps) hps, List.singleton_append]
    exact List.cons_ne_nil q ps

theorem splitOn_joinWith {sep : Char} {ps : List String} (hne : ps ≠ [])
    (h : ∀ p ∈ ps, sep ∉ p.toList) : splitOn sep (joinWith sep ps) = ps := by
  have hps : ∀ cs ∈ ps.map String.toList, sep ∉ cs := List.forall_mem_map.mpr h
  rw [splitOn, joinWith, String.toList_ofList, splitOnChar_joinWithChar (by simpa using hne) hps,
    List.map_map]
  exact (List.map_congr_left fun p _ => String.ofList_toList).trans (List.map_id ps)

theorem joinWithChar_cons {sep : Char} (p : List Char) {ps : List (List Char)} (hne : ps ≠ []) :
    joinWithChar sep (p :: ps) = p ++ sep :: joinWithChar sep ps := by
  cases ps with
  | nil => exact absurd rfl hne
  | cons q ps => rfl

theorem joinWithChar_append {sep : Char} {ps qs : List (List Char)} (hp : ps ≠ []) (hq : qs ≠ []) :
    joinWithChar sep (ps ++ qs) = joinWithChar sep ps ++ sep :: joinWithChar sep qs := by
  induction ps with
  | nil => exact absurd rfl hp
  | cons p ps ih =>
    cases ps with
    | nil => exact joinWithChar_cons p hq
    | cons r ps =>
      rw [List.cons_append, joinWithChar_cons p (by simp), ih (List.cons_ne_nil r ps),
        joinWithChar_cons p (List.cons_ne_nil r ps), List.append_assoc, List.cons_append]

theorem not_mem_of_mem_splitOnChar {sep : Char} {piece : List Char} : ∀ {cs : List Char},
    piece ∈ splitOnChar sep cs → sep ∉ piece
  | [], h => by
    rw [List.mem_singleton.mp h]
    exact List.not_mem_nil
  | c :: cs, h => by
    rw [splitOnChar] at h
    split at h
    · obtain rfl | h := List.mem_cons.mp h
      · exact List.not_mem_nil
      · exact not_mem_of_mem_splitOnChar h
    · rename_i hc
      cases hs : splitOnChar sep cs with
      | nil => exact absurd hs (splitOnChar_ne_nil sep cs)
      | cons p ps =>
        have hpieces : ∀ q ∈ splitOnChar sep cs, sep ∉ q := fun q hq =>
          not_mem_of_mem_splitOnChar hq
        rw [hs] at h hpieces
        obtain rfl | h := List.mem_cons.mp h
        · exact List.not_mem_cons_of_ne_of_not_mem (Ne.symm hc) (hpieces p (List.mem_cons_self ..))
        · exact hpieces piece (List.mem_cons_of_mem _ h)

theorem splitOn_slash (p : String) : splitOn '/' ("/" ++ p) = "" :: splitOn '/' p := by
  simp [splitOn, splitOnChar]

end Text

namespace Path

open Files (isName isName_iff)
open Text (splitOn joinWith)

/-! ## Names -/

theorem double_slash (p : String) : "//" ++ p = "/" ++ ("/" ++ p) := by
  rw [show "//" = "/" ++ "/" from rfl, String.append_assoc]

theorem names_slash (p : String) : names ("/" ++ p) = names p := by
  rw [names, Text.splitOn_slash]
  rfl

theorem isName_of_mem_names {p n : String} (h : n ∈ names p) : isName n = true := by
  obtain ⟨hn, hne⟩ := List.mem_filter.mp h
  obtain ⟨cs, hcs, rfl⟩ := List.mem_map.mp hn
  refine isName_iff.mpr ⟨by simpa using hne, ?_⟩
  rw [String.toList_ofList]
  exact Text.not_mem_of_mem_splitOnChar hcs

theorem names_joinWith {ns : List String} (h : ∀ n ∈ ns, isName n = true) :
    names (joinWith '/' ns) = ns := by
  cases ns with
  | nil => rfl
  | cons n ns =>
    rw [names, Text.splitOn_joinWith (List.cons_ne_nil n ns) fun m hm => (isName_iff.mp (h m hm)).2]
    exact List.filter_eq_self.mpr fun m hm => by simpa using (isName_iff.mp (h m hm)).1

/-! ## Normal form -/

/-- What the root of an absolute path can be. -/
def IsRoot (r : String) : Prop := r = "/" ∨ r = "//"

/-- A name that leads down. -/
structure IsProper (n : String) : Prop where
  name : isName n = true
  stays : n ≠ "."
  rises : n ≠ ".."

/-- An absolute path in normal form. -/
structure IsNormal (p : String) : Prop where
  root : IsRoot (root p)
  proper : ∀ n ∈ names p, IsProper n
  eq : ofParts (Path.root p) (names p) = p

theorem IsNormal.not_mem {p : String} (h : IsNormal p) : ".." ∉ names p := fun hmem =>
  (h.proper _ hmem).rises rfl

theorem isRoot_root {p : String} (h : isAbsolute p = true) : IsRoot (root p) := by
  obtain ⟨cs, hcs⟩ := isAbsolute_iff.mp h
  unfold root
  split
  · exact Or.inl rfl
  · exact Or.inr rfl
  · exact Or.inl rfl
  · rename_i hslash
    exact absurd hcs (hslash cs)

/-- A root is read off a path when no slash follows it. -/
theorem root_append {r s : String} (hr : IsRoot r) (hs : ∀ cs, s.toList ≠ '/' :: cs) :
    root (r ++ s) = r := by
  unfold root
  rw [String.toList_append]
  cases hcs : s.toList with
  | nil => obtain rfl | rfl := hr <;> rfl
  | cons c cs =>
    have hc : c ≠ '/' := fun hc => hs cs (hc ▸ hcs)
    obtain rfl | rfl := hr <;> simp [hc]

theorem joinWith_ne_slash {ns : List String} (h : ∀ n ∈ ns, isName n = true) (cs : List Char) :
    (joinWith '/' ns).toList ≠ '/' :: cs := by
  intro hcs
  have hslash : joinWith '/' ns = "/" ++ String.ofList cs := by
    rw [← String.toList_inj, hcs]
    simp
  cases ns with
  | nil => simp [joinWith, Text.joinWithChar] at hcs
  | cons n ns =>
    -- the first name would be empty
    have hsplit := Text.splitOn_joinWith (List.cons_ne_nil n ns) fun m hm =>
      (isName_iff.mp (h m hm)).2
    rw [hslash, Text.splitOn_slash] at hsplit
    have hn := h n (List.mem_cons_self ..)
    rw [← (List.cons.inj hsplit).1] at hn
    cases hn

section
variable {r : String} {ns : List String} (hr : IsRoot r)
include hr

theorem ofParts_eq (ns : List String) : ofParts r ns = r ++ joinWith '/' ns := by
  have hr : r ≠ "" := by
    obtain rfl | rfl := hr
    · decide
    · decide
  rw [ofParts]
  exact if_neg (by simp [hr])

theorem names_ofParts (h : ∀ n ∈ ns, isName n = true) : names (ofParts r ns) = ns := by
  rw [ofParts_eq hr]
  obtain rfl | rfl := hr
  · rw [names_slash, names_joinWith h]
  · rw [double_slash, names_slash, names_slash, names_joinWith h]

theorem root_ofParts (h : ∀ n ∈ ns, isName n = true) : root (ofParts r ns) = r := by
  rw [ofParts_eq hr]
  exact root_append hr (joinWith_ne_slash h)

theorem isNormal_ofParts (h : ∀ n ∈ ns, IsProper n) : IsNormal (ofParts r ns) := by
  have hroot := root_ofParts hr fun n hn => (h n hn).name
  have hnames := names_ofParts hr fun n hn => (h n hn).name
  refine ⟨hroot.symm ▸ hr, hnames.symm ▸ h, ?_⟩
  rw [hroot, hnames]

theorem isAbsolute_ofParts (ns : List String) : isAbsolute (ofParts r ns) = true := by
  rw [ofParts_eq hr]
  obtain rfl | rfl := hr
  · rw [isAbsolute_append (by decide)]
    rfl
  · rw [isAbsolute_append (by decide)]
    rfl

end

theorem IsNormal.isAbsolute {p : String} (h : IsNormal p) : isAbsolute p = true :=
  h.eq ▸ isAbsolute_ofParts h.root _

section
variable {r : String} {ns : List String} (hr : IsRoot r) (h : ∀ n ∈ ns, isName n = true)
include hr h

/-- Nothing stands before the first name but the empty pieces between slashes. -/
theorem splitOn_ofParts : ∃ k, splitOn '/' (ofParts r ns) = List.replicate k "" ++ ns := by
  have hns : ∃ k, splitOn '/' (joinWith '/' ns) = List.replicate k "" ++ ns := by
    by_cases hne : ns = []
    · exact ⟨1, by rw [hne]; rfl⟩
    · exact ⟨0, Text.splitOn_joinWith hne fun n hn => (isName_iff.mp (h n hn)).2⟩
  obtain ⟨k, hk⟩ := hns
  rw [ofParts_eq hr]
  obtain rfl | rfl := hr
  · exact ⟨k + 1, by rw [Text.splitOn_slash, hk]; rfl⟩
  · refine ⟨k + 2, ?_⟩
    rw [double_slash, Text.splitOn_slash, Text.splitOn_slash, hk]
    rfl

theorem getLast?_splitOn_ofParts (hne : ns ≠ []) :
    (splitOn '/' (ofParts r ns)).getLast? = ns.getLast? := by
  obtain ⟨k, hk⟩ := splitOn_ofParts hr h
  rw [hk, List.getLast?_append, List.getLast?_eq_some_getLast hne]
  rfl

end

/-! ## Taking a normal form -/

theorem foldl_pushComponent_filter (rooted : Bool) (cs stack : List String) :
    cs.foldl (pushComponent rooted) stack =
      (cs.filter (· != "")).foldl (pushComponent rooted) stack := by
  induction cs generalizing stack with
  | nil => rfl
  | cons c cs ih =>
    rw [List.foldl_cons, ih]
    by_cases hc : c = ""
    · subst hc
      rfl
    · rw [List.filter_cons_of_pos (by simpa using hc), List.foldl_cons]

theorem components_eq (p : String) :
    components p = ((names p).foldl (pushComponent (isAbsolute p)) []).reverse := by
  rw [components, foldl_pushComponent_filter]
  rfl

theorem foldl_pushComponent_proper {rooted : Bool} {ns : List String} (h : ∀ n ∈ ns, IsProper n)
    (stack : List String) : ns.foldl (pushComponent rooted) stack = ns.reverse ++ stack := by
  induction ns generalizing stack with
  | nil => rfl
  | cons n ns ih =>
    obtain ⟨hn, hns⟩ := List.forall_mem_cons.mp h
    have hpush : pushComponent rooted stack n = n :: stack := by
      simp [pushComponent, (isName_iff.mp hn.name).1, hn.stays, hn.rises]
    rw [List.foldl_cons, hpush, ih hns, List.reverse_cons, List.append_assoc, List.singleton_append]

/-- From the top no way up is left, so that every component leads down. -/
theorem proper_pushComponent {stack : List String} (h : ∀ n ∈ stack, IsProper n) {c : String}
    (hc : isName c = true) : ∀ n ∈ pushComponent true stack c, IsProper n := by
  unfold pushComponent
  split
  · exact h
  · rename_i hstays
    split
    · split
      · exact List.forall_mem_nil _
      · rename_i top rest
        obtain ⟨htop, hrest⟩ := List.forall_mem_cons.mp h
        rw [if_neg (by simpa using htop.rises)]
        exact hrest
    · rename_i hrises
      simp only [Bool.or_eq_true, beq_iff_eq, not_or] at hstays
      exact List.forall_mem_cons.mpr ⟨⟨hc, hstays.2, by simpa using hrises⟩, h⟩

theorem proper_foldl_pushComponent {cs stack : List String} (hcs : ∀ c ∈ cs, isName c = true)
    (h : ∀ n ∈ stack, IsProper n) : ∀ n ∈ cs.foldl (pushComponent true) stack, IsProper n := by
  induction cs generalizing stack with
  | nil => exact h
  | cons c cs ih =>
    obtain ⟨hc, hcs⟩ := List.forall_mem_cons.mp hcs
    exact ih hcs (proper_pushComponent h hc)

theorem proper_components {p : String} (h : isAbsolute p = true) :
    ∀ n ∈ components p, IsProper n := by
  rw [components_eq, h]
  simp only [List.mem_reverse]
  exact proper_foldl_pushComponent (fun c hc => isName_of_mem_names hc) (List.forall_mem_nil _)

theorem isNormal_normalize {p : String} (h : isAbsolute p = true) : IsNormal (normalize p) :=
  isNormal_ofParts (isRoot_root h) (proper_components h)

theorem IsNormal.normalize {p : String} (h : IsNormal p) : normalize p = p := by
  rw [Path.normalize, components_eq, foldl_pushComponent_proper h.proper, List.append_nil,
    List.reverse_reverse, h.eq]

theorem isAbsolute_join {cwd : String} (hcwd : isAbsolute cwd = true) (p : String) :
    isAbsolute (join cwd p) = true := by
  have hne : cwd ≠ "" := by
    rintro rfl
    cases hcwd
  unfold join
  split
  · rename_i h
    simpa [hne] using h
  · split
    · rw [isAbsolute_append hne, hcwd]
    · rw [String.append_assoc, isAbsolute_append hne, hcwd]

/-- Every spelling of a path has a normal form. -/
theorem isNormal_absolute {cwd : String} (hcwd : isAbsolute cwd = true) (p : String) :
    IsNormal (absolute cwd p) := by
  rw [absolute]
  split
  · exact isNormal_normalize ‹_›
  · exact isNormal_normalize (isAbsolute_join hcwd p)

theorem IsNormal.absolute {p : String} (h : IsNormal p) (cwd : String) : absolute cwd p = p := by
  rw [Path.absolute, if_pos h.isAbsolute, h.normalize]

/-- Paths in normal form with the same names differ in their roots alone. -/
theorem names_eq_iff {p q : String} (hp : IsNormal p) (hq : IsNormal q) :
    names p = names q ↔ p = q ∨ p = "/" ++ q ∨ q = "/" ++ p := by
  constructor
  · intro h
    have heq := hp.eq
    have heq' := hq.eq
    rw [ofParts_eq hp.root, h] at heq
    rw [ofParts_eq hq.root] at heq'
    generalize joinWith '/' (names q) = down at heq heq'
    obtain hr | hr := hp.root <;> obtain hr' | hr' := hq.root <;> rw [hr] at heq <;>
      rw [hr'] at heq' <;> rw [← heq, ← heq']
    · exact Or.inl rfl
    · exact Or.inr (Or.inr (double_slash _))
    · exact Or.inr (Or.inl (double_slash _))
    · exact Or.inl rfl
  · rintro (rfl | rfl | rfl)
    · rfl
    · exact names_slash q
    · exact (names_slash p).symm

/-! ## One name further down -/

theorem endsWith_ofParts {r : String} (hr : IsRoot r) {ns : List String} (hne : ns ≠ [])
    (h : ∀ n ∈ ns, isName n = true) : Text.endsWith (ofParts r ns) "/" = false := by
  rw [Bool.eq_false_iff]
  intro hslash
  obtain ⟨ds, hds⟩ := List.isSuffixOf_iff_suffix.mp hslash
  have hparts : ofParts r ns = String.ofList (ds ++ '/' :: []) := by
    rw [← String.toList_inj]
    simpa using hds.symm
  -- the last name would be empty
  have hlast := getLast?_splitOn_ofParts hr h hne
  rw [hparts, Text.splitOn_append] at hlast
  have hempty : ns.getLast? = some "" := hlast.symm.trans (by simp [splitOn, Text.splitOnChar])
  exact absurd (h "" (List.mem_of_getLast? hempty)) (by decide)

theorem joinWith_concat {ns : List String} (hne : ns ≠ []) (n : String) :
    joinWith '/' (ns ++ [n]) = joinWith '/' ns ++ "/" ++ n := by
  have hmap : ns.map String.toList ≠ [] := by simpa using hne
  rw [← String.toList_inj]
  simp [joinWith, Text.joinWithChar_append hmap, Text.joinWithChar]

theorem join_ofParts {r : String} (hr : IsRoot r) {ns : List String}
    (h : ∀ n ∈ ns, isName n = true) {n : String} (hn : isName n = true) :
    join (ofParts r ns) n = ofParts r (ns ++ [n]) := by
  have hne : ofParts r ns ≠ "" := fun hempty => by
    have habsolute := isAbsolute_ofParts hr ns
    rw [hempty] at habsolute
    cases habsolute
  have hjoin : join (ofParts r ns) n =
      if Text.endsWith (ofParts r ns) "/" then ofParts r ns ++ n else ofParts r ns ++ "/" ++ n := by
    simp only [join, isAbsolute_of_not_mem (isName_iff.mp hn).2, Bool.false_or, beq_iff_eq, hne,
      if_false]
  rw [hjoin]
  by_cases hns : ns = []
  · subst hns
    have hslash : Text.endsWith (ofParts r []) "/" = true := by
      obtain rfl | rfl := hr
      · decide
      · decide
    rw [if_pos hslash, ofParts_eq hr, ofParts_eq hr]
    simp [joinWith, Text.joinWithChar]
  · rw [endsWith_ofParts hr hns h, ofParts_eq hr, ofParts_eq hr, joinWith_concat hns]
    simp [String.append_assoc]

theorem IsNormal.join {p n : String} (h : IsNormal p) (hn : IsProper n) :
    IsNormal (join p n) ∧ Path.root (join p n) = Path.root p ∧
      names (join p n) = names p ++ [n] := by
  have hnames : ∀ m ∈ names p ++ [n], IsProper m :=
    List.forall_mem_append.mpr ⟨h.proper, List.forall_mem_singleton.mpr hn⟩
  have hjoin := join_ofParts h.root (fun m hm => (h.proper m hm).name) hn.name
  rw [h.eq] at hjoin
  rw [hjoin]
  exact ⟨isNormal_ofParts h.root hnames, root_ofParts h.root fun m hm => (hnames m hm).name,
    names_ofParts h.root fun m hm => (hnames m hm).name⟩

/-! ## The way to a path -/

theorem baseName_eq {p : String} (h : IsNormal p) (hne : names p ≠ []) :
    baseName p = (names p).getLast?.getD "" := by
  have hlast := getLast?_splitOn_ofParts h.root (fun n hn => (h.proper n hn).name) hne
  rw [h.eq] at hlast
  rw [baseName, Text.afterLast, hlast]

theorem dropCommon_spec : ∀ as bs : List String, ∃ common,
    as = common ++ (dropCommon as bs).1 ∧ bs = common ++ (dropCommon as bs).2
  | [], bs => ⟨[], rfl, rfl⟩
  | a :: as, [] => ⟨[], rfl, rfl⟩
  | a :: as, b :: bs => by
    rw [dropCommon]
    split
    · rename_i hab
      obtain ⟨common, has, hbs⟩ := dropCommon_spec as bs
      refine ⟨a :: common, congrArg (a :: ·) has, ?_⟩
      rw [← beq_iff_eq.mp hab]
      exact congrArg (a :: ·) hbs
    · exact ⟨[], rfl, rfl⟩

theorem isName_of_mem_way {start p n : String}
    (h : n ∈ (dropCommon (names start) (names p)).1.map (fun _ => "..") ++
      (dropCommon (names start) (names p)).2) : isName n = true := by
  obtain ⟨common, -, hp⟩ := dropCommon_spec (names start) (names p)
  rcases List.mem_append.mp h with h | h
  · obtain ⟨-, -, rfl⟩ := List.mem_map.mp h
    decide
  · have hmem : n ∈ names p := by
      rw [hp]
      exact List.mem_append_right common h
    exact isName_of_mem_names hmem

/-- The way from `start` to `p` leaves what they have in common: it goes up from there and down. -/
theorem exists_way (start p : String) : ∃ common up down,
    names start = common ++ up ∧ names p = common ++ down ∧
      names (relative start p) = List.replicate up.length ".." ++ down := by
  obtain ⟨common, hstart, hp⟩ := dropCommon_spec (names start) (names p)
  refine ⟨common, _, _, hstart, hp, ?_⟩
  rw [← List.map_const']
  exact names_joinWith fun n hn => isName_of_mem_way hn

theorem joinWith_names_relative (start p : String) :
    joinWith '/' (names (relative start p)) = relative start p := by
  rw [relative, names_joinWith fun n hn => isName_of_mem_way hn]

/-- The way to a path tells its names, as none of them leads up. -/
theorem relative_inj (start : String) {p q : String} (hp : ".." ∉ names p) (hq : ".." ∉ names q)
    (h : names (relative start p) = names (relative start q)) : names p = names q := by
  obtain ⟨common, up, down, hstart, hdown, hway⟩ := exists_way start p
  obtain ⟨common', up', down', hstart', hdown', hway'⟩ := exists_way start q
  rw [hway, hway'] at h
  rw [hdown] at hp
  rw [hdown'] at hq
  have hlength : up.length = up'.length := by
    have hcount := congrArg (List.count "..") h
    rwa [List.count_append, List.count_append, List.count_replicate_self, List.count_replicate_self,
      List.count_eq_zero.mpr fun hd => hp (List.mem_append_right _ hd),
      List.count_eq_zero.mpr fun hd => hq (List.mem_append_right _ hd)] at hcount
  have hcommon : common = common' :=
    List.append_inj_left' (hstart.symm.trans hstart') hlength
  rw [hlength] at h
  rw [hdown, hdown', hcommon, List.append_cancel_left h]

theorem names_of_relative_empty {start p : String} (h : relative start p = "") :
    names p = names start := by
  obtain ⟨common, up, down, hstart, hp, hway⟩ := exists_way start p
  rw [h] at hway
  obtain ⟨hup, hdown⟩ := List.append_eq_nil_iff.mp hway.symm
  rw [List.replicate_eq_nil_iff, List.length_eq_zero_iff] at hup
  rw [hp, hstart, hup, hdown]

/-- A way that is a name leads to what has the name. -/
theorem names_of_relative_name {start p n : String} (hn : IsProper n) (h : relative start p = n) :
    names p = names start ++ [n] := by
  obtain ⟨common, up, down, hstart, hp, hway⟩ := exists_way start p
  have hsingle : names n = [n] := by
    rw [names, Text.splitOn_of_not_mem (isName_iff.mp hn.name).2]
    simp [(isName_iff.mp hn.name).1]
  rw [h, hsingle] at hway
  cases up with
  | nil => rw [hp, hstart, hway]; simp
  | cons a up =>
    rw [List.length_cons, List.replicate_succ] at hway
    exact absurd (List.cons.inj hway).1 hn.rises

/-- The start is named as what is right below it. -/
theorem names_of_relative_baseName {start p q : String} (hp : IsNormal p) (hne : names p ≠ [])
    (hstart : relative start p = "") (h : relative start q = baseName p) :
    ∃ n, names q = names p ++ [n] := by
  have hlast := List.getLast?_eq_some_getLast hne
  have hproper := hp.proper _ (List.getLast_mem hne)
  rw [baseName_eq hp hne, hlast, Option.getD_some] at h
  refine ⟨(names p).getLast hne, ?_⟩
  rw [names_of_relative_name hproper h, ← names_of_relative_empty hstart]

end Path

end SecurityScan
