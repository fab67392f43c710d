/-
  Cai.Classification.Contract — the answer of the model.

  `parse_result` and `validate_result` of `src/core/ia_classification.py`,
  with `normalize_intent_type` of `src/core/intents.py`.  What `raw_decode`
  finds at a place of a text is a parameter, and so are the Unicode tables.

  The scan ends at the first object that has one of the four fields.  A
  draft before the answer, with some of the fields only, is therefore taken
  for the answer, and refused.

  Main results:
    * `validateResult_eq_ok_iff` — what is accepted, and what becomes of it.
    * `recovered_iff` — when an answer that is there is recovered.
    * `draft_not_recovered` — a draft with a title, before the answer.
-/
import Mathlib.Data.Rat.Init
import Mathlib.Algebra.Order.Ring.Rat
import Cai.Lib.Dictionary
import Cai.Lib.Fallible
import Cai.Lib.Json
import Cai.Lib.Text

namespace Cai.Classification

open Cai.Lib

/-! ## §1. The intents. -/

/-- `VALID_INTENT_TYPES` -/
def validIntentTypes : List String :=
  ["question", "problem", "request", "complaint", "payment", "billing", "financial", "document",
    "protocol", "other"]

/-- `_INTENT_ALIASES` -/
def intentAliases : List (String × String) :=
  [("pergunta", "question"), ("duvida", "question"), ("problema", "problem"), ("erro", "problem"),
    ("solicitacao", "request"), ("pedido", "request"), ("reclamacao", "complaint"),
    ("insatisfacao", "complaint"), ("pagamento", "payment"), ("pagar", "payment"),
    ("taxa", "payment"), ("cobranca", "billing"), ("boleto", "billing"),
    ("financeiro", "financial"), ("financas", "financial"), ("documento", "document"),
    ("documentos", "document"), ("envio_de_documento", "document"), ("protocolo", "protocol"),
    ("protocolar", "protocol"), ("outro", "other"), ("outros", "other")]

/-- What is used of the Unicode tables. -/
structure Unicode where
  /-- `str.lower` -/
  lower : String → String
  /-- `unicodedata.normalize("NFKD", …)` -/
  nfkd : String → String
  /-- `unicodedata.combining(char)` is not zero. -/
  combining : Char → Bool

/-- `normalize_intent_type` -/
def normalizeIntentType (u : Unicode) (value : Json) : Option String := do
  let text ← value.asText
  let decomposed := (u.nfkd (u.lower (Text.strip text))).toList.filter fun c => !u.combining c
  let replaced := Text.replaceRuns (fun c => ('a' ≤ c && c ≤ 'z') || ('0' ≤ c && c ≤ '9')) decomposed
  let normalized := String.ofList (Text.trimList (· == '_') replaced)
  if normalized ∈ validIntentTypes then some normalized else intentAliases.lookup normalized

theorem normalizeIntentType_valid {u : Unicode} {value : Json} {intent : String}
    (h : normalizeIntentType u value = some intent) : intent ∈ validIntentTypes := by
  have haliases : ∀ item ∈ intentAliases, item.2 ∈ validIntentTypes := by decide
  unfold normalizeIntentType at h
  obtain ⟨text, -, h⟩ := Option.bind_eq_some_iff.mp h
  simp only at h
  split at h
  next hvalid => exact Option.some.inj h ▸ hvalid
  next => exact haliases _ (mem_of_lookup h)

/-! ## §2. The contract. -/

/-- What `parse_result` raises. -/
inductive ParseError
  /-- `ValueError` -/
  | value (message : String)
  /-- What is raised while a text is decoded, but for `JSONDecodeError`: the nesting is too
      deep, or an integer too long. -/
  | decoder
  deriving DecidableEq, Repr

/-- The four fields, as `sorted` lists them. -/
def requiredFields : List String := ["confidence", "description", "intent_type", "title"]

/-- A number in `[0, 1]`: `True` is none, nor is `NaN`. -/
def isConfidence : Json → Bool
  | .int n => 0 ≤ n && n ≤ 1
  | .float number => number.value.any fun x => 0 ≤ x && x ≤ 1
  | _ => false

/-- A text that is not blank. -/
def isText : Json → Bool
  | .str text => !Text.isBlank text
  | _ => false

/-- What becomes of an object that is accepted. -/
def neutralized (u : Unicode) (result : JsonObject) : JsonObject :=
  match normalizeIntentType u (result.get "intent_type") with
  | none =>
      assign (assign result ("intent_type", .str "other")) ("confidence", .float ⟨"0.0", some 0⟩)
  | some intentType => assign result ("intent_type", .str intentType)

/-- `validate_result` -/
def validateResult (u : Unicode) (result : Json) : Except ParseError JsonObject :=
  match result with
  | .dict typedResult =>
      let missingFields := requiredFields.filter fun field => field ∉ typedResult.map (·.1)
      if missingFields ≠ [] then
        .error (.value ("Resposta JSON da IA sem campos obrigatórios: "
          ++ String.intercalate ", " missingFields))
      else if !isText (JsonObject.get typedResult "title") then
        .error (.value "O título da resposta da IA deve ser texto não vazio")
      else if !isText (JsonObject.get typedResult "description") then
        .error (.value "A descrição da resposta da IA deve ser texto não vazio")
      else if !isConfidence (JsonObject.get typedResult "confidence") then
        .error (.value "A confiança da resposta da IA deve estar entre 0 e 1")
      else .ok (neutralized u typedResult)
  | _ => .error (.value "A resposta JSON da IA deve ser um objeto")

/-- The contract: the four fields, texts that are not blank, a confidence in `[0, 1]`. -/
structure Contract (o : JsonObject) : Prop where
  fields : ∀ field ∈ requiredFields, field ∈ o.map (·.1)
  title : isText (JsonObject.get o "title") = true
  description : isText (JsonObject.get o "description") = true
  confidence : isConfidence (JsonObject.get o "confidence") = true

/-- A result: it meets the contract, and its intent is one of the ten. -/
structure Validated (o : JsonObject) : Prop extends Contract o where
  intent : ∃ intentType ∈ validIntentTypes, JsonObject.get o "intent_type" = .str intentType

variable {u : Unicode} {o result : JsonObject} {value : Json}

/-- **What is accepted.** -/
theorem validateResult_eq_ok_iff :
    validateResult u value = .ok result ↔ ∃ o, value = .dict o ∧ Contract o ∧ result = neutralized u o := by
  unfold validateResult
  cases value with
  | dict o =>
      have hfields : requiredFields.filter (fun field => field ∉ o.map (·.1)) = []
          ↔ ∀ field ∈ requiredFields, field ∈ o.map (·.1) := by
        rw [List.filter_eq_nil_iff]
        simp only [decide_eq_true_eq, not_not]
      simp only [refused_eq_ok_iff, Json.dict.injEq, Except.ok.injEq, Bool.not_eq_true', not_not,
        Bool.not_eq_false, ne_eq]
      constructor
      · intro ⟨hmissing, htitle, hdescription, hconfidence, heq⟩
        exact ⟨o, rfl, ⟨hfields.mp hmissing, htitle, hdescription, hconfidence⟩, heq.symm⟩
      · intro ⟨o', ho, hcontract, heq⟩
        rw [← ho] at hcontract heq
        exact ⟨hfields.mpr hcontract.fields, hcontract.title, hcontract.description,
          hcontract.confidence, heq.symm⟩
  | _ =>
      constructor
      · intro h
        cases h
      · intro ⟨o, ho, _⟩
        cases ho

theorem get_assign (o : JsonObject) (key key' : String) (value : Json) :
    JsonObject.get (assign o (key, value)) key'
      = if key = key' then value else JsonObject.get o key' := by
  unfold JsonObject.get
  rw [lookup_assign]
  split
  next => rfl
  next => rfl

/-- Another intent does not touch the rest of the contract. -/
theorem Contract.assign_intent (h : Contract o) (intentType : String) :
    Contract (assign o ("intent_type", .str intentType)) := by
  refine ⟨fun field hfield => mem_keys_assign.mpr (.inr (h.fields field hfield)), ?_, ?_, ?_⟩
  · rw [get_assign, if_neg (by decide)]
    exact h.title
  · rw [get_assign, if_neg (by decide)]
    exact h.description
  · rw [get_assign, if_neg (by decide)]
    exact h.confidence

/-- **What becomes of it.** -/
theorem Contract.neutralized (h : Contract o) (u : Unicode) : Validated (neutralized u o) := by
  unfold Classification.neutralized
  split
  next =>
    have hother := h.assign_intent "other"
    refine ⟨⟨fun field hfield => mem_keys_assign.mpr (.inr (hother.fields field hfield)), ?_, ?_, ?_⟩,
      "other", by decide, ?_⟩
    · rw [get_assign, if_neg (by decide)]
      exact hother.title
    · rw [get_assign, if_neg (by decide)]
      exact hother.description
    · rw [get_assign, if_pos rfl]
      decide
    · rw [get_assign, if_neg (by decide), get_assign, if_pos rfl]
  next intentType hintent =>
    refine ⟨h.assign_intent intentType, intentType, normalizeIntentType_valid hintent, ?_⟩
    rw [get_assign, if_pos rfl]

/-! ## §3. The scan. -/

/-- What decoding raises. -/
inductive DecodeError
  /-- `JSONDecodeError` -/
  | json
  /-- Another exception. -/
  | other
  deriving DecidableEq, Repr

/-- `JSONDecoder().raw_decode(text, start)`: a value, and where it ends. -/
abbrev RawDecode := String → Nat → Except DecodeError (Json × Nat)

/-- Where the white space of JSON ends that starts at `start`. -/
def skipSpace (text : String) (start : Nat) : Nat :=
  start + ((text.toList.drop start).takeWhile fun c => c ∈ [' ', '\t', '\n', '\r']).length

/-- `json.loads(text)` -/
def loads (rawDecode : RawDecode) (text : String) : Except DecodeError Json :=
  if text.toList.head? = some '\uFEFF' then .error .json
  else do
    let (value, stop) ← rawDecode text (skipSpace text 0)
    if skipSpace text stop = text.length then return value else .error .json

/-- `re.finditer(r"\{", text)`, the starts of the matches -/
def braces (text : String) : List Nat :=
  (List.range text.length).filter fun start => text.toList[start]? = some '\x7b'

/-- `expected_fields.intersection(candidate)` is not empty. -/
def expected (candidate : JsonObject) : Bool :=
  requiredFields.any fun field => field ∈ candidate.map (·.1)

/-- The loop of `parse_result`, and what follows it. -/
def scan (u : Unicode) (rawDecode : RawDecode) (text : String) :
    List Nat → Except ParseError JsonObject
  | [] => .error (.value "Groq response does not contain valid classification JSON")
  | start :: rest =>
      match rawDecode text start with
      | .error .json => scan u rawDecode text rest
      | .error .other => .error .decoder
      | .ok (.dict candidate, _) =>
          if !expected candidate then scan u rawDecode text rest
          else validateResult u (.dict candidate)
      | .ok _ => scan u rawDecode text rest

/-- `parse_result` -/
def parseResult (u : Unicode) (rawDecode : RawDecode) (text : String) :
    Except ParseError JsonObject :=
  match loads rawDecode text with
  | .ok document => validateResult u document
  | .error .json => scan u rawDecode text (braces text)
  | .error .other => .error .decoder

/-- The brace is passed over: nothing that is decoded there has one of the fields. -/
def passedOver (rawDecode : RawDecode) (text : String) (start : Nat) : Bool :=
  match rawDecode text start with
  | .error .json => true
  | .error .other => false
  | .ok (.dict candidate, _) => !expected candidate
  | .ok _ => true

/-- An object that meets the contract begins at the brace. -/
def AnswerAt (rawDecode : RawDecode) (text : String) (start : Nat) : Prop :=
  ∃ o stop, rawDecode text start = .ok (.dict o, stop) ∧ Contract o

variable {rawDecode : RawDecode} {text : String} {start : Nat} {starts : List Nat}

instance (o : JsonObject) : Decidable (Contract o) :=
  decidable_of_iff ((∀ field ∈ requiredFields, field ∈ o.map (·.1))
      ∧ isText (JsonObject.get o "title") = true ∧ isText (JsonObject.get o "description") = true
      ∧ isConfidence (JsonObject.get o "confidence") = true)
    ⟨fun h => ⟨h.1, h.2.1, h.2.2.1, h.2.2.2⟩,
      fun h => ⟨h.fields, h.title, h.description, h.confidence⟩⟩

/-- An answer begins at the brace, as a test. -/
def isAnswerAt (rawDecode : RawDecode) (text : String) (start : Nat) : Bool :=
  match rawDecode text start with
  | .ok (.dict o, _) => decide (Contract o)
  | _ => false

theorem answerAt_of_isAnswerAt (h : isAnswerAt rawDecode text start = true) :
    AnswerAt rawDecode text start := by
  unfold isAnswerAt at h
  split at h
  next o stop hdecode => exact ⟨o, stop, hdecode, of_decide_eq_true h⟩
  next => cases h

theorem AnswerAt.not_passedOver (h : AnswerAt rawDecode text start) :
    passedOver rawDecode text start = false := by
  obtain ⟨o, stop, hdecode, hcontract⟩ := h
  have hexpected : expected o = true :=
    List.any_eq_true.mpr ⟨"title", by decide, decide_eq_true (hcontract.fields _ (by decide))⟩
  unfold passedOver
  rw [hdecode]
  simp only [hexpected, Bool.not_true]

theorem scan_passedOver (h : passedOver rawDecode text start = true) :
    scan u rawDecode text (start :: starts) = scan u rawDecode text starts := by
  unfold passedOver at h
  rw [scan]
  split at h
  next => rfl
  next => cases h
  next => exact if_pos h
  next => rfl

/-- At a brace that is not passed over, the scan ends. -/
theorem scan_eq_ok_iff_of_not_passedOver (h : passedOver rawDecode text start = false) :
    scan u rawDecode text (start :: starts) = .ok result
      ↔ ∃ o stop, rawDecode text start = .ok (.dict o, stop) ∧ Contract o ∧ result = neutralized u o := by
  unfold passedOver at h
  rw [scan]
  split at h
  next => cases h
  next hdecode =>
    rw [hdecode]
    constructor
    · intro h
      cases h
    · intro ⟨o, stop, heq, _⟩
      cases heq
  next candidate stop hdecode =>
    rw [hdecode]
    simp only [h, Bool.false_eq_true, if_false, validateResult_eq_ok_iff]
    constructor
    · intro ⟨o, ho, hcontract, heq⟩
      exact ⟨o, stop, by rw [ho], hcontract, heq⟩
    · intro ⟨o, stop', ho, hcontract, heq⟩
      obtain ⟨hcandidate, -⟩ := Prod.mk.inj (Except.ok.inj ho)
      exact ⟨o, hcandidate, hcontract, heq⟩
  next => cases h

/-- At a brace that is not passed over, the scan has a result when an answer begins there. -/
theorem scan_recovers_of_not_passedOver (h : passedOver rawDecode text start = false) :
    (∃ result, scan u rawDecode text (start :: starts) = .ok result ∧ Validated result)
      ↔ AnswerAt rawDecode text start := by
  simp only [scan_eq_ok_iff_of_not_passedOver h]
  constructor
  · intro ⟨result, ⟨o, stop, hdecode, hcontract, _⟩, _⟩
    exact ⟨o, stop, hdecode, hcontract⟩
  · intro ⟨o, stop, hdecode, hcontract⟩
    exact ⟨neutralized u o, ⟨o, stop, hdecode, hcontract, rfl⟩, hcontract.neutralized u⟩

/-- **The scan** has a result when all braces before an answer are passed over. -/
theorem scan_recovers_iff (hsorted : starts.Pairwise (· < ·)) :
    (∃ result, scan u rawDecode text starts = .ok result ∧ Validated result)
      ↔ ∃ start ∈ starts, AnswerAt rawDecode text start
        ∧ ∀ j ∈ starts, j < start → passedOver rawDecode text j = true := by
  induction starts with
  | nil =>
      constructor
      · intro ⟨result, h, _⟩
        cases h
      · intro ⟨start, h, _⟩
        cases h
  | cons first rest ih =>
      have hfirst : ∀ start ∈ rest, first < start := fun start h => List.rel_of_pairwise_cons hsorted h
      by_cases hpassed : passedOver rawDecode text first = true
      · rw [scan_passedOver hpassed, ih hsorted.of_cons]
        constructor
        · intro ⟨start, hstart, hanswer, hbefore⟩
          refine ⟨start, List.mem_cons_of_mem _ hstart, hanswer, fun j hj hlt => ?_⟩
          rcases List.mem_cons.mp hj with rfl | hrest
          · exact hpassed
          · exact hbefore j hrest hlt
        · intro ⟨start, hstart, hanswer, hbefore⟩
          rcases List.mem_cons.mp hstart with rfl | hrest
          · rw [hanswer.not_passedOver] at hpassed
            cases hpassed
          · exact ⟨start, hrest, hanswer, fun j hj => hbefore j (List.mem_cons_of_mem _ hj)⟩
      · rw [scan_recovers_of_not_passedOver (Bool.eq_false_iff.mpr hpassed)]
        constructor
        · intro hanswer
          refine ⟨first, List.mem_cons_self, hanswer, fun j hj hlt => ?_⟩
          -- the braces that follow are not before the first
          rcases List.mem_cons.mp hj with rfl | hrest
          · exact absurd hlt (Nat.lt_irrefl _)
          · exact absurd hlt (Nat.lt_asymm (hfirst j hrest))
        · intro ⟨start, hstart, hanswer, hbefore⟩
          rcases List.mem_cons.mp hstart with rfl | hrest
          · exact hanswer
          · exact absurd (hbefore first List.mem_cons_self (hfirst start hrest)) hpassed

theorem sorted_braces (text : String) : (braces text).Pairwise (· < ·) :=
  List.pairwise_lt_range.filter _

/-! ## §4. An answer that is there. -/

/-- **When an answer that is there is recovered.**  The text is no document, and an answer
    begins at some brace: there is a validated result if and only if decoding the whole text
    gives up as it does on such texts, and each brace is passed over, or has an answer at or
    before it. -/
theorem recovered_iff (u : Unicode) (hdocument : ∀ document, loads rawDecode text ≠ .ok document)
    (hpresent : ∃ start ∈ braces text, AnswerAt rawDecode text start) :
    (∃ result, parseResult u rawDecode text = .ok result ∧ Validated result)
      ↔ loads rawDecode text = .error .json
        ∧ ∀ j ∈ braces text, passedOver rawDecode text j = true
          ∨ ∃ start ∈ braces text, start ≤ j ∧ AnswerAt rawDecode text start := by
  have hscan : (∃ result, parseResult u rawDecode text = .ok result ∧ Validated result)
      ↔ loads rawDecode text = .error .json
        ∧ ∃ result, scan u rawDecode text (braces text) = .ok result ∧ Validated result := by
    unfold parseResult
    cases hloads : loads rawDecode text with
    | ok document => exact absurd hloads (hdocument document)
    | error e =>
        cases e with
        | json => simp only [true_and]
        | other =>
            constructor
            · intro ⟨result, h, _⟩
              cases h
            · intro ⟨h, _⟩
              cases h
  rw [hscan, scan_recovers_iff (sorted_braces text)]
  refine and_congr_right fun _ => ⟨fun h j hj => ?_, fun h => ?_⟩
  · obtain ⟨start, hstart, hanswer, hbefore⟩ := h
    rcases Nat.lt_or_ge j start with hlt | hge
    · exact .inl (hbefore j hj hlt)
    · exact .inr ⟨start, hstart, hge, hanswer⟩
  · -- the first answer there is
    obtain ⟨start, ⟨hstart, hanswer⟩, hleast⟩ := WellFounded.has_min Nat.lt_wfRel.wf
      { start | start ∈ braces text ∧ AnswerAt rawDecode text start } hpresent
    refine ⟨start, hstart, hanswer, fun j hj hlt => ?_⟩
    rcases h j hj with hpassed | ⟨start', hstart', hle, hanswer'⟩
    · exact hpassed
    · exact absurd (Nat.lt_of_le_of_lt hle hlt) (hleast start' ⟨hstart', hanswer'⟩)

/-- The tables, as far as ASCII goes. -/
def asciiTables : Unicode where
  lower := Text.lower
  nfkd := id
  combining _ := false

/-- A decoder that finds the given texts of objects only. -/
def decoderOf (objects : List (String × JsonObject)) : RawDecode := fun text start =>
  match objects.find? fun item => item.1.toList.isPrefixOf (text.toList.drop start) with
  | some (literal, o) => .ok (.dict o, start + literal.length)
  | none => .error .json

/-- `{"title": "Guia"}` -/
def draft : String × JsonObject := ("\x7b\"title\": \"Guia\"\x7d", [("title", .str "Guia")])

/-- An object that meets the contract. -/
def answer : String × JsonObject :=
  ("\x7b\"intent_type\": \"question\", \"confidence\": 1, \"title\": \"Guia\", \"description\": \"Prazo.\"\x7d",
    [("intent_type", .str "question"), ("confidence", .int 1), ("title", .str "Guia"),
      ("description", .str "Prazo.")])

/-- An answer after some text and a pair of braces. -/
def wrapped : String := "<think>\x7bpasso\x7d</think> " ++ answer.1

theorem wrapped_recovered :
    ∃ result, parseResult asciiTables (decoderOf [answer]) wrapped = .ok result
      ∧ Validated result := by
  have hloads : loads (decoderOf [answer]) wrapped = .error .json :=
    eq_error_of_map (f := fun _ => ()) (by decide +kernel)
  have hanswer : AnswerAt (decoderOf [answer]) wrapped 23 :=
    answerAt_of_isAnswerAt (by decide +kernel)
  have hbraces : braces wrapped = [7, 23] := by decide +kernel
  have hpassed : passedOver (decoderOf [answer]) wrapped 7 = true := by decide +kernel
  refine (recovered_iff asciiTables (fun document h => ?_) ⟨23, by simp [hbraces], hanswer⟩).mpr
    ⟨hloads, ?_⟩
  · rw [hloads] at h
    cases h
  · rw [hbraces, List.forall_mem_cons, List.forall_mem_singleton]
    exact ⟨.inl hpassed, .inr ⟨23, by simp, Nat.le_refl _, hanswer⟩⟩

/-- A draft with a title, and an answer that meets the contract. -/
def drafted : String := draft.1 ++ " " ++ answer.1

theorem draft_not_recovered :
    ¬∀ (u : Unicode) (rawDecode : RawDecode) (text : String),
      (∀ document, loads rawDecode text ≠ .ok document) →
      (∃ start ∈ braces text, AnswerAt rawDecode text start) →
      ∃ result, parseResult u rawDecode text = .ok result ∧ Validated result := by
  intro h
  have hloads : loads (decoderOf [draft, answer]) drafted = .error .json :=
    eq_error_of_map (f := fun _ => ()) (by decide +kernel)
  have hanswer : AnswerAt (decoderOf [draft, answer]) drafted 18 :=
    answerAt_of_isAnswerAt (by decide +kernel)
  have hbraces : braces drafted = [0, 18] := by decide +kernel
  have hparse : parseResult asciiTables (decoderOf [draft, answer]) drafted = .error (.value
      "Resposta JSON da IA sem campos obrigatórios: confidence, description, intent_type") :=
    eq_error_of_map (f := fun _ => ()) (by decide +kernel)
  obtain ⟨result, hresult, -⟩ := h asciiTables (decoderOf [draft, answer]) drafted
    (fun document heq => by rw [hloads] at heq; cases heq) ⟨18, by simp [hbraces], hanswer⟩
  rw [hparse] at hresult
  cases hresult

end Cai.Classification
