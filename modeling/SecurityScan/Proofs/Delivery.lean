import SecurityScan.Proofs.Connection
import SecurityScan.Proofs.Json
import SecurityScan.Proofs.Reply
import SecurityScan.Proofs.Scan
import SecurityScan.Proofs.Trim

/-!
# Replies however they are delivered

An object comes as the input of a tool, or as its JSON text: in the texts of a message, as the content
of a choice, as it is or between fences. The text is read back, so the reply means the same, until it
nests deeper than texts are read.
-/

namespace SecurityScan

open Backend

namespace Reply

open Text (isBlank trimBy)

/-! ## Fences -/

def Blank (cs : List Char) : Prop := ∀ c ∈ cs, isBlank c = true

def tag (tagged : Bool) : List Char := if tagged then languageTag else []

/-- A text as it is or between fences, the first of which may name its language, with blanks around
it. -/
inductive Wrapped (text : List Char) : List Char → Prop
  | plain {before after : List Char} : Blank before → Blank after →
    Wrapped text (before ++ (text ++ after))
  | fenced {before start last after : List Char} (tagged : Bool) : Blank before → Blank start →
    Blank last → Blank after →
    Wrapped text (before ++ ((fence ++ (tag tagged ++ (start ++ (text ++ last)) ++ fence)) ++ after))

theorem wrapped_self (text : List Char) : Wrapped text text := by
  have h : Wrapped text ([] ++ (text ++ [])) := .plain (List.forall_mem_nil _) (List.forall_mem_nil _)
  rwa [List.nil_append, List.append_nil] at h

theorem afterStart?_append (start cs : List Char) : afterStart? start (start ++ cs) = some cs := by
  have hprefix : start.isPrefixOf (start ++ cs) = true :=
    List.isPrefixOf_iff_prefix.mpr (List.prefix_append _ _)
  rw [afterStart?, if_pos hprefix, List.drop_left]

theorem beforeEnd?_append (cs last : List Char) : beforeEnd? last (cs ++ last) = some cs := by
  have hsuffix : last.isSuffixOf (cs ++ last) = true :=
    List.isSuffixOf_iff_suffix.mpr (List.suffix_append _ _)
  rw [beforeEnd?, if_pos hsuffix, List.length_append, Nat.add_sub_cancel, List.take_left]

theorem inside_tag (tagged : Bool) {cs : List Char} (h : cs.head? ≠ some 'j') :
    (afterStart? languageTag (tag tagged ++ cs)).getD (tag tagged ++ cs) = cs := by
  cases tagged with
  | true => rw [tag, if_pos rfl, afterStart?_append, Option.getD_some]
  | false =>
    have hnone : afterStart? languageTag cs = none := by
      cases cs with
      | nil => rfl
      | cons c cs =>
        have hc : 'j' ≠ c := fun he => h (congrArg some he.symm)
        simp [afterStart?, languageTag, List.isPrefixOf, hc]
    rw [tag, if_neg Bool.false_ne_true, List.nil_append, hnone, Option.getD_none]

theorem fenced?_fence (tagged : Bool) {cs : List Char} (h : (cs ++ fence).head? ≠ some 'j') :
    fenced? (fence ++ (tag tagged ++ cs ++ fence)) = some cs := by
  rw [fenced?, afterStart?_append]
  show beforeEnd? fence (Option.getD _ _) = _
  rw [List.append_assoc, inside_tag tagged h, beforeEnd?_append]

theorem exists_head?_fence (cs : List Char) : ∃ c ∈ (fence ++ cs).head?, isBlank c = false :=
  ⟨_, rfl, by decide⟩

theorem exists_getLast?_fence (cs : List Char) : ∃ c ∈ (cs ++ fence).getLast?, isBlank c = false := by
  obtain ⟨c, hc, hblank⟩ : ∃ c ∈ fence.getLast?, isBlank c = false := ⟨_, rfl, by decide⟩
  refine ⟨c, ?_, hblank⟩
  rw [List.getLast?_append, hc]
  rfl

/-- Blanks come off outside the fences first, then the fences, then the blanks inside them. -/
theorem withoutFence_fence (tagged : Bool) {before inside after : List Char} (hbefore : Blank before)
    (hafter : Blank after) (h : (inside ++ fence).head? ≠ some 'j') :
    withoutFence (String.ofList (before ++ ((fence ++ (tag tagged ++ inside ++ fence)) ++ after))) =
      String.ofList (trimBy isBlank inside) := by
  have hclosed := exists_getLast?_fence (fence ++ (tag tagged ++ inside))
  rw [List.append_assoc] at hclosed
  simp only [withoutFence, String.toList_ofList,
    Text.trimBy_between hbefore hafter (exists_head?_fence _) hclosed, fenced?_fence tagged h]

section
variable {text : List Char} (hhead : text.head? = some '\x7b') (hlast : text.getLast? = some '\x7d')
include hhead

theorem fenced?_eq_none : fenced? text = none := by
  obtain ⟨tail, rfl⟩ := List.head?_eq_some_iff.mp hhead
  rfl

theorem head?_ne_tag {start : List Char} (hstart : Blank start) (cs : List Char) :
    (start ++ (text ++ cs)).head? ≠ some 'j' := by
  obtain ⟨tail, rfl⟩ := List.head?_eq_some_iff.mp hhead
  cases start with
  | nil => exact fun h => absurd (Option.some.inj h) (by decide)
  | cons c start =>
    intro h
    have hblank := hstart c List.mem_cons_self
    rw [Option.some.inj h] at hblank
    exact absurd hblank (by decide)

include hlast

/-- What is wrapped comes out as it went in. -/
theorem withoutFence_wrapped {wrapped : List Char} (h : Wrapped text wrapped) :
    withoutFence (String.ofList wrapped) = String.ofList text := by
  have hfirst : ∃ c ∈ text.head?, isBlank c = false := ⟨_, hhead, by decide⟩
  have hend : ∃ c ∈ text.getLast?, isBlank c = false := ⟨_, hlast, by decide⟩
  cases h with
  | plain hbefore hafter =>
    simp only [withoutFence, String.toList_ofList, Text.trimBy_between hbefore hafter hfirst hend,
      fenced?_eq_none hhead]
  | @fenced before start last after tagged hbefore hstart hinner hafter =>
    have htag : (start ++ (text ++ last) ++ fence).head? ≠ some 'j' := by
      rw [List.append_assoc, List.append_assoc]
      exact head?_ne_tag hhead hstart _
    rw [withoutFence_fence tagged hbefore hafter htag, Text.trimBy_between hstart hinner hfirst hend]

end

end Reply

/-! ## Reading -/

namespace Reply

/-- The JSON text of an object means what the object means, as far as texts are read. -/
theorem read_wrapped (style : Json.Style) {d : Entries} (hd : (Value.map d).IsDocument)
    {wrapped : List Char} (h : Wrapped (Json.valueText style 0 (.map d)) wrapped) :
    (read (.str (String.ofList wrapped))).run.value =
      if (Value.map d).nesting ≤ Json.maxDepth then (read (.map d)).run.value
      else .error .tooDeep := by
  have hinside := withoutFence_wrapped (Json.head?_mapText style 0 d) (Json.getLast?_mapText style 0 d) h
  rw [read, Attempt.value_bind, value_decoded, hinside, Json.read_text style hd]
  by_cases hdeep : (Value.map d).nesting ≤ Json.maxDepth
  · rw [if_pos hdeep, if_pos hdeep]
    rfl
  · rw [if_neg hdeep, if_neg hdeep]

end Reply

/-! ## Answers -/

theorem Value.orElse_empty (s : String) : (Value.str s).orElse (.str "") = .str s := by
  by_cases h : s = ""
  · rw [h]
    rfl
  · simp [Value.orElse, Value.holds, h]

namespace Backend

/-- A part of a message that is no tool and lacks nothing. -/
def Block.isBeside : Block → Bool
  | .text _ | .other => true
  | .toolUse _ | .without _ => false

def Block.text? : Block → Option Value
  | .text content => some content
  | _ => none

namespace Answer

theorem messageContent_toolUse {before : List Block} (h : ∀ b ∈ before, b.isBeside = true)
    (texts : List Value) (input : Value) (after : List Block) :
    messageContent texts (before ++ .toolUse input :: after) = .ok input := by
  induction before generalizing texts with
  | nil => rfl
  | cons b before ih =>
    obtain ⟨hb, hbefore⟩ := List.forall_mem_cons.mp h
    cases b with
    | text content => exact ih hbefore _
    | other => exact ih hbefore _
    | _ => cases hb

theorem joined_texts (place : Nat) (pieces : List String) :
    joined place (pieces.map .str) = .ok (String.join pieces) := by
  induction pieces generalizing place with
  | nil => rfl
  | cons s pieces ih =>
    rw [List.map_cons, joined, ih, String.join_cons]
    rfl

theorem messageContent_texts {blocks : List Block} (h : ∀ b ∈ blocks, b.isBeside = true)
    (texts : List Value) : messageContent texts blocks =
      (joined 0 (texts ++ blocks.filterMap Block.text?)).map .str := by
  induction blocks generalizing texts with
  | nil => rw [List.filterMap_nil, List.append_nil, messageContent]
  | cons b blocks ih =>
    obtain ⟨hb, hblocks⟩ := List.forall_mem_cons.mp h
    cases b with
    | text content =>
      rw [messageContent, ih hblocks, List.append_assoc]
      rfl
    | other =>
      rw [messageContent, ih hblocks]
      rfl
    | _ => cases hb

/-- An answer with an object as the input of its first tool. -/
inductive CarriesInput (d : Entries) : Answer → Prop
  | tool {before after : List Block} : (∀ b ∈ before, b.isBeside = true) →
    CarriesInput d (.message (before ++ .toolUse (.map d) :: after))

/-- An answer with a JSON text: in pieces as the texts of a message without a tool, or as the content
of its first choice. -/
inductive CarriesText (json : String) : Answer → Prop
  | message {blocks : List Block} {pieces : List String} : (∀ b ∈ blocks, b.isBeside = true) →
    blocks.filterMap Block.text? = pieces.map .str →
    Reply.Wrapped json.toList (String.join pieces).toList → CarriesText json (.message blocks)
  | choice {text : String} {others : List Value} : Reply.Wrapped json.toList text.toList →
    CarriesText json (.choices (.str text :: others))

theorem content_of_carriesInput {d : Entries} {answer : Answer} (h : CarriesInput d answer) :
    answer.content = .ok (.map d) := by
  cases h with
  | tool hbefore => exact messageContent_toolUse hbefore [] _ _

theorem content_of_carriesText {json : String} {answer : Answer} (h : CarriesText json answer) :
    ∃ wrapped, Reply.Wrapped json.toList wrapped ∧
      answer.content = .ok (.str (String.ofList wrapped)) := by
  cases h with
  | @message blocks pieces hblocks htexts hwrapped =>
    refine ⟨_, hwrapped, ?_⟩
    rw [content, messageContent_texts hblocks, List.nil_append, htexts, joined_texts,
      String.ofList_toList]
    rfl
  | @choice text others hwrapped =>
    refine ⟨_, hwrapped, ?_⟩
    rw [content, Value.orElse_empty, String.ofList_toList]

end Answer

end Backend

/-! ## Analyses -/

namespace Manager

/-- What a reply means to an analysis. -/
def meaning (raw : Value) : Except Fault Value :=
  (Reply.read raw).run.value.map (·.getD .null)

section
variable {σ : Type} {m : Manager} {send : Request → Session σ Sent} {prompt : String} {schema : Value}
  {w : σ} {r : Request} {answer : Answer} {raw : Value}

theorem value_call (hr : m.request prompt schema = .ok r) (hsent : (send r w).value.1 = .ok answer) :
    (m.call send prompt schema w).value = (answer.content, (send r w).value.2) := by
  rw [call, hr]
  show (send r w >>= fun s => _).value = _
  rw [Noted.value_bind, hsent]
  rfl

/-- An analysis comes to what the content of the answer means, if there is one. -/
theorem value_analyze_call : (m.analyze send prompt schema w).value.1 =
    match (m.call send prompt schema w).value.1 with
    | .ok raw => meaning raw
    | .error _ => .ok .null := by
  rw [analyze, Session.bind_apply, Noted.value_bind]
  obtain ⟨called, w'⟩ := (m.call send prompt schema w).value
  cases called with
  | error f => rfl
  | ok raw =>
    have hread : (Session.ofNoted (Reply.read raw).run w').value =
        ((Reply.read raw).run.value, w') := rfl
    show ((Session.ofNoted (Reply.read raw).run >>= _) w').value.1 = _
    rw [Session.bind_apply, Noted.value_bind, hread]
    show _ = meaning raw
    rw [meaning]
    cases (Reply.read raw).run.value <;> rfl

theorem value_analyze (hr : m.request prompt schema = .ok r)
    (hsent : (send r w).value.1 = .ok answer) (hraw : answer.content = .ok raw) :
    (m.analyze send prompt schema w).value.1 = meaning raw := by
  rw [value_analyze_call, value_call hr hsent, hraw]

variable {d : Entries}

theorem analyze_carriesInput (hr : m.request prompt schema = .ok r)
    (hsent : (send r w).value.1 = .ok answer) (h : answer.CarriesInput d) :
    (m.analyze send prompt schema w).value.1 = meaning (.map d) :=
  value_analyze hr hsent (Answer.content_of_carriesInput h)

theorem analyze_carriesText (hr : m.request prompt schema = .ok r)
    (hsent : (send r w).value.1 = .ok answer) (style : Json.Style) (hd : (Value.map d).IsDocument)
    (h : answer.CarriesText (String.ofList (Json.valueText style 0 (.map d)))) :
    (m.analyze send prompt schema w).value.1 =
      if (Value.map d).nesting ≤ Json.maxDepth then meaning (.map d) else .error .tooDeep := by
  obtain ⟨wrapped, hwrapped, hcontent⟩ := Answer.content_of_carriesText h
  rw [String.toList_ofList] at hwrapped
  rw [value_analyze hr hsent hcontent, meaning, Reply.read_wrapped style hd hwrapped]
  by_cases hdeep : (Value.map d).nesting ≤ Json.maxDepth
  · rw [if_pos hdeep, if_pos hdeep]
    rfl
  · rw [if_neg hdeep, if_neg hdeep]
    rfl

end

/-- **A reply means the same however it is delivered.** A manager that is ready and has an object for
an answer comes to what the object means: always when it is the input of the first tool of a message,
and when its JSON text is told, in pieces, in a choice or in fences, as long as the object does not
nest deeper than texts are read. A text that nests deeper ends the analysis. -/
theorem analyze_by_delivery {σ : Type} {config : Config} {m : Manager} (hm : m.Reached config)
    (hready : m.isReady = true) (send : Request → Session σ Sent) (prompt : String) (schema : Value)
    (w : σ) {answer : Answer}
    (hsent : ∀ r, m.request prompt schema = .ok r → (send r w).value.1 = .ok answer)
    (style : Json.Style) {d : Entries} (hd : (Value.map d).IsDocument) :
    let replied := (m.analyze send prompt schema w).value.1
    let meant := (Reply.read (.map d)).run.value.map (·.getD .null)
    (answer.CarriesInput d → replied = meant) ∧
      ∃ json, Json.write? style (.map d) = some json ∧
        (answer.CarriesText json → replied =
          if (Value.map d).nesting ≤ Json.maxDepth then meant else .error .tooDeep) := by
  obtain ⟨r, hr⟩ := hm.exists_request hready prompt schema
  exact ⟨analyze_carriesInput hr (hsent r hr), _, Json.write?_document style hd,
    analyze_carriesText hr (hsent r hr) style hd⟩

def keyedConfig : Config := { Scanner.wideConfig with openaiKey := .str "k" }

/-- A manager that has opened a client for the key. -/
def keyedManager : Manager := ((ofConfig keyedConfig).initialized .open (some "openai")).value.2

theorem reached_keyedManager : keyedManager.Reached keyedConfig :=
  ⟨Unit, fun _ => pure (.ok (.choices [])), [.connect .open (some "openai")], (), rfl⟩

def answering (answer : Answer) (_ : Request) : Session Unit Sent := pure (.ok answer)

def quietReply : Entries := [(.str "security_risks", .list [])]

theorem isDocument_quietReply : (Value.map quietReply).IsDocument := by
  have hkey : Text.hasLoneHalf "security_risks" = false := by decide
  exact ⟨by simp [quietReply, Entries.distinct_cons, Entries.distinct_nil], ⟨_, rfl, hkey⟩, trivial,
    trivial⟩

theorem meaning_quietReply : meaning (.map quietReply) = .ok (.map quietReply) := by
  have hj : Value.entriesJson quietReply = true := by
    have hkey : Text.hasLoneHalf "security_risks" = false := by decide
    simp [quietReply, Value.entriesJson, Value.isJson, Value.allJson, Value.str?, hkey]
  have hin : Reply.Envelope.In ⟨[], []⟩ quietReply :=
    ⟨⟨[], by simp [quietReply, Entries.field?_cons_str, Reply.envelopeKey], .nil⟩,
      (Reply.beside_cons_of_mem (k := Reply.envelopeKey) List.mem_cons_self (.list []) []).symm⟩
  have hdeep : ¬Reply.Envelope.TooDeep ⟨[], []⟩ := by
    rintro ⟨e, he, -⟩
    exact List.not_mem_nil he
  rw [meaning, (Reply.read_of_in hj hin).2 hdeep]
  rfl

def fencedReply : String := "```json\n\x7b\"security_risks\": []\x7d\n```"

theorem wrapped_fencedReply :
    Reply.Wrapped "\x7b\"security_risks\": []\x7d".toList fencedReply.toList := by
  have hline : Reply.Blank ['\n'] := List.forall_mem_singleton.mpr (by decide)
  exact @Reply.Wrapped.fenced _ [] ['\n'] ['\n'] [] true (List.forall_mem_nil _) hline hline
    (List.forall_mem_nil _)

theorem analyze_fencedReply :
    keyedManager.Reached keyedConfig ∧ keyedManager.isReady = true ∧
      (∀ r, keyedManager.request "p" .null = .ok r →
        (answering (.choices [.str fencedReply]) r ()).value.1 = .ok (.choices [.str fencedReply])) ∧
      (Value.map quietReply).IsDocument ∧
      (keyedManager.analyze (answering (.choices [.str fencedReply])) "p" .null ()).value.1 =
        .ok (.map quietReply) := by
  obtain ⟨-, json, hjson, hmeant⟩ := analyze_by_delivery reached_keyedManager rfl
    (answering (.choices [.str fencedReply])) "p" .null () (fun _ _ => rfl) .compact
    isDocument_quietReply
  have htext : Json.write? .compact (.map quietReply) = some "\x7b\"security_risks\": []\x7d" := rfl
  obtain rfl := Option.some.inj (hjson.symm.trans htext)
  refine ⟨reached_keyedManager, rfl, fun _ _ => rfl, isDocument_quietReply, ?_⟩
  rw [hmeant (.choice wrapped_fencedReply), if_pos (by decide)]
  exact meaning_quietReply

end Manager

/-! ## A text that is too deep -/

namespace Reply

theorem nesting_nestedLists (n : Nat) : (nestedLists n).nesting = n + 1 := by
  induction n with
  | zero => rfl
  | succ n ih => simp [nestedLists, Value.nesting, Value.nestingAll, ih]

theorem isDocument_nestedLists (n : Nat) : (nestedLists n).IsDocument := by
  induction n with
  | zero => trivial
  | succ n ih => exact ⟨ih, trivial⟩

def deepReply (n : Nat) : Entries := [(.str "a", nestedLists n)]

theorem isDocument_deepReply (n : Nat) : (Value.map (deepReply n)).IsDocument := by
  have hkey : Text.hasLoneHalf "a" = false := by decide
  exact ⟨by simp [deepReply, Entries.distinct_cons, Entries.distinct_nil], ⟨_, rfl, hkey⟩,
    isDocument_nestedLists n, trivial⟩

/-- An object without findings means nothing. -/
theorem read_deepReply (n : Nat) : (read (.map (deepReply n))).run.value = .ok none := by
  have hkey : Text.hasLoneHalf "a" = false := by decide
  have hj : Value.entriesJson (deepReply n) = true := by
    simp [deepReply, Value.entriesJson, Value.str?, hkey, isJson_nestedLists]
  refine read_of_not_in hj fun hr => ?_
  obtain ⟨xs, hxs, -⟩ := fits_iff.mpr hr
  simp [deepReply, Entries.field?_cons_str] at hxs

end Reply

namespace Manager

/-- The text of an object that nests deeper than texts are read ends the analysis. -/
theorem analyze_deepReply {n : Nat} (h : Json.maxDepth ≤ n) :
    ∃ json, Json.write? .compact (.map (Reply.deepReply n)) = some json ∧
      (keyedManager.analyze (answering (.choices [.str json])) "p" .null ()).value.1 =
        .error .tooDeep := by
  have hd := Reply.isDocument_deepReply n
  obtain ⟨r, hr⟩ := reached_keyedManager.exists_request rfl "p" .null
  have hdeep : ¬(Value.map (Reply.deepReply n)).nesting ≤ Json.maxDepth := by
    simp only [Reply.deepReply, Value.nesting, Value.nestingEntries, Reply.nesting_nestedLists]
    omega
  have hsent : ∀ answer : Answer, (answering answer r ()).value.1 = .ok answer := fun _ => rfl
  refine ⟨_, Json.write?_document .compact hd, ?_⟩
  rw [analyze_carriesText hr (hsent _) .compact hd (.choice (Reply.wrapped_self _)), if_neg hdeep]

/-- Two thousand lists in one another, in a text, end the analysis, though an object with them means
that there is nothing. -/
theorem deep_text_ends_analysis : keyedManager.Reached keyedConfig ∧ keyedManager.isReady = true ∧
    (Value.map (Reply.deepReply 1999)).IsDocument ∧
    (Reply.read (.map (Reply.deepReply 1999))).run.value = .ok none ∧
    ∃ json, Json.write? .compact (.map (Reply.deepReply 1999)) = some json ∧
      (keyedManager.analyze (answering (.choices [.str json])) "p" .null ()).value.1 =
        .error .tooDeep :=
  ⟨reached_keyedManager, rfl, Reply.isDocument_deepReply 1999, Reply.read_deepReply 1999,
    analyze_deepReply (by decide)⟩

end Manager

end SecurityScan
