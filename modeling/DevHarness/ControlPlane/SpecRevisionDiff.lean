import DevHarness.ControlPlane.SpecArtifact
import DevHarness.Text.Stringify

/-!
# Differences of spec revisions

`diffSpecBundles` compares most lists as sets and the requirements by their ids; the
canonical text of a bundle keeps the order of every list.  The differences are empty
exactly for two bundles that are alike up to the order of what is compared so.
-/

namespace DevHarness.ControlPlane

open JsText Sequence

inductive SpecDiffSection
  | proposal
  | prd
  | architecture
  | migration
  | rollback
  | solutionElements

inductive SpecDiffKind
  | added
  | removed
  | changed
  deriving DecidableEq

/-- `SpecFieldChange`; `part` is its section. -/
structure SpecFieldChange where
  part : SpecDiffSection
  path : JsString
  kind : SpecDiffKind
  before : Option JsString
  after : Option JsString

structure SpecDiffCounts where
  added : ℕ
  removed : ℕ
  changed : ℕ

structure SpecRevisionDiff where
  changes : List SpecFieldChange
  counts : SpecDiffCounts

def printable (value : Json) : JsString :=
  match value with
  | .string s => s
  | value => stringify value

def compareValue (part : SpecDiffSection) (path : JsString) (before after : Json) :
    List SpecFieldChange :=
  let left := printable before
  let right := printable after
  if left = right then []
  else
    [{ part := part, path := path, kind := .changed, before := some left, after := some right }]

def compareList (part : SpecDiffSection) (path : JsString) (before after : List JsString) :
    List SpecFieldChange :=
  ((before.filter fun value => value ∉ after).map fun value =>
    { part := part, path := path, kind := .removed, before := some value, after := none }) ++
  (after.filter fun value => value ∉ before).map fun value =>
    { part := part, path := path, kind := .added, before := none, after := some value }

/-- `map.get(id)` of a map of the requirements by id: the last entry counts. -/
def requirementById (requirements : List SpecRequirement) (id : JsString) :
    Option SpecRequirement :=
  requirements.reverse.find? fun requirement => requirement.id = id

def requirementPath (id : JsString) : JsString :=
  js "prd.requirements." ++ id

def compareRequirement (after : List SpecRequirement) (requirement : SpecRequirement) :
    List SpecFieldChange :=
  let path := requirementPath requirement.id
  match requirementById after requirement.id with
  | none =>
    [{ part := .prd
       path := path
       kind := .removed
       before := some (printable requirement.toJson)
       after := none }]
  | some current =>
    compareValue .prd (path ++ js ".statement") (.string requirement.statement)
        (.string current.statement) ++
      compareList .prd (path ++ js ".acceptanceCriterionRefs")
        requirement.acceptanceCriterionRefs current.acceptanceCriterionRefs

def addedRequirements (before after : List SpecRequirement) : List SpecFieldChange :=
  (after.filter fun requirement => requirementById before requirement.id = none).map
    fun requirement =>
      { part := .prd
        path := requirementPath requirement.id
        kind := .added
        before := none
        after := some (printable requirement.toJson) }

def proposalChanges (before after : SpecProposal) : List SpecFieldChange :=
  let value (name : String) (left right : JsString) :=
    compareValue .proposal (js "proposal." ++ js name) (.string left) (.string right)
  let list (name : String) (left right : List JsString) :=
    compareList .proposal (js "proposal." ++ js name) left right
  value "summary" before.summary after.summary ++ value "value" before.value after.value ++
    list "inScope" before.inScope after.inScope ++
    list "outOfScope" before.outOfScope after.outOfScope ++
    list "deliverySlices" before.deliverySlices after.deliverySlices

def prdChanges (before after : SpecPrd) : List SpecFieldChange :=
  let list (name : String) (left right : List JsString) :=
    compareList .prd (js "prd." ++ js name) left right
  compareValue .prd (js "prd.problem") (.string before.problem) (.string after.problem) ++
    list "users" before.users after.users ++ list "nonGoals" before.nonGoals after.nonGoals ++
    list "constraints" before.constraints after.constraints ++
    before.requirements.flatMap (compareRequirement after.requirements) ++
    addedRequirements before.requirements after.requirements

def architectureChanges (before after : SpecArchitecture) : List SpecFieldChange :=
  compareValue .architecture (js "architecture.summary") (.string before.summary)
      (.string after.summary) ++
    compareValue .architecture (js "architecture.components")
      (.array (before.components.map SpecComponent.toJson))
      (.array (after.components.map SpecComponent.toJson)) ++
    compareList .architecture (js "architecture.decisions") before.decisions after.decisions

def specChanges (before after : SpecBundle) : List SpecFieldChange :=
  proposalChanges before.proposal after.proposal ++ prdChanges before.prd after.prd ++
    architectureChanges before.architecture after.architecture ++
    compareValue .migration (js "migration") before.migration.toJson after.migration.toJson ++
    compareValue .rollback (js "rollback") before.rollback.toJson after.rollback.toJson ++
    compareValue .solutionElements (js "solutionElements")
      (.array (before.solutionElements.map SpecSolutionElement.toJson))
      (.array (after.solutionElements.map SpecSolutionElement.toJson))

def diffSpecBundles (before after : SpecBundle) : SpecRevisionDiff :=
  let changes := specChanges before after
  let count (kind : SpecDiffKind) := (changes.filter fun change => change.kind = kind).length
  { changes := changes
    counts := { added := count .added, removed := count .removed, changed := count .changed } }

/-- Two requirements that differ in the order of their references at most. -/
structure SameRequirement (before after : SpecRequirement) : Prop where
  id : before.id = after.id
  statement : before.statement = after.statement
  refs : before.acceptanceCriterionRefs.Perm after.acceptanceCriterionRefs

/-- Two bundles that differ at most in the order of the requirements, of their references
and of the texts of the lists that are compared as sets. -/
structure Reordered (before after : SpecBundle) : Prop where
  summary : before.proposal.summary = after.proposal.summary
  value : before.proposal.value = after.proposal.value
  inScope : before.proposal.inScope.Perm after.proposal.inScope
  outOfScope : before.proposal.outOfScope.Perm after.proposal.outOfScope
  deliverySlices : before.proposal.deliverySlices.Perm after.proposal.deliverySlices
  problem : before.prd.problem = after.prd.problem
  users : before.prd.users.Perm after.prd.users
  nonGoals : before.prd.nonGoals.Perm after.prd.nonGoals
  constraints : before.prd.constraints.Perm after.prd.constraints
  kept : ∀ requirement ∈ before.prd.requirements,
    ∃ current ∈ after.prd.requirements, SameRequirement requirement current
  known : ∀ current ∈ after.prd.requirements,
    ∃ requirement ∈ before.prd.requirements, SameRequirement requirement current
  overview : before.architecture.summary = after.architecture.summary
  components : before.architecture.components = after.architecture.components
  decisions : before.architecture.decisions.Perm after.architecture.decisions
  migration : before.migration = after.migration
  rollback : before.rollback = after.rollback
  solutionElements : before.solutionElements = after.solutionElements

/-! ## Words -/

def isLowerWord (s : JsString) : Bool :=
  s ≠ [] ∧ ∀ u ∈ s, 0x61 ≤ u ∧ u ≤ 0x7A

section Words

variable {s : JsString} {value : Json}

theorem not_isLowerWord_of_head {u : UInt16} {rest : JsString} (hu : u < 0x61) :
    isLowerWord (u :: rest) = false := by
  unfold isLowerWord
  rw [decide_eq_false_iff_not]
  rintro ⟨-, hall⟩
  have hhead := (hall u List.mem_cons_self).1
  rw [UInt16.le_iff_toNat_le] at hhead
  rw [UInt16.lt_iff_toNat_lt] at hu
  omega

theorem js_cons_of_lt {c : Char} {cs : List Char} {t : String} (ht : t.toList = c :: cs)
    (hc : c.toNat < 0x61) : ∃ u rest, js t = u :: rest ∧ u < 0x61 := by
  refine ⟨c.toNat.toUInt16, cs.flatMap encodeChar, ?_, ?_⟩
  · have hunit : encodeChar c = [c.toNat.toUInt16] := by
      unfold encodeChar
      rw [if_pos (by omega)]
    rw [js, ht, List.flatMap_cons, hunit]
    rfl
  · rw [UInt16.lt_iff_toNat_lt]
    change c.toNat % 65536 < 0x61
    omega

theorem not_isLowerWord_number (n : JsNumber) : isLowerWord n.toText = false := by
  cases n with
  | safeInteger n bounded =>
      have hdigits : ∃ c cs, (toString n).toList = c :: cs ∧ c.toNat < 0x61 := by
        cases n with
        | ofNat m =>
            have hne : Nat.toDigits 10 m ≠ [] := Nat.toDigits_ne_nil
            obtain ⟨c, cs, hcs⟩ := List.exists_cons_of_ne_nil hne
            have hdigit : c.isDigit = true :=
              Nat.isDigit_of_mem_toDigits (by decide) (by decide) (hcs ▸ List.mem_cons_self)
            refine ⟨c, cs, ?_, ?_⟩
            · rw [Int.toString_eq_repr]
              change (Nat.repr m).toList = _
              simpa [Nat.repr] using hcs
            · simp only [Char.isDigit, Bool.and_eq_true, decide_eq_true_eq] at hdigit
              have hle := hdigit.2
              rw [UInt32.le_iff_toNat_le] at hle
              change c.toNat ≤ 57 at hle
              omega
        | negSucc m =>
            refine ⟨'-', (Nat.repr (m + 1)).toList, ?_, by decide⟩
            rw [Int.toString_eq_repr]
            change ("-" ++ Nat.repr (m + 1)).toList = _
            rw [String.toList_append]
            rfl
      obtain ⟨c, cs, hcs, hlt⟩ := hdigits
      obtain ⟨u, rest, hjs, hu⟩ := js_cons_of_lt hcs hlt
      rw [JsNumber.toText, hjs]
      exact not_isLowerWord_of_head hu
  | other text printed =>
      rw [JsNumber.toText]
      cases text with
      | nil => cases printed
      | cons u rest =>
          refine not_isLowerWord_of_head ?_
          simp only [beginsNumber, decide_eq_true_eq] at printed
          rw [UInt16.lt_iff_toNat_lt]
          simp only [UInt16.le_iff_toNat_le, ← UInt16.toNat_inj] at printed
          simp only [UInt16.reduceToNat] at printed ⊢
          omega

theorem length_itemTexts {items : List Json} {texts : List JsString}
    (h : Json.itemTexts items = some texts) : texts.length = items.length := by
  induction items generalizing texts with
  | nil =>
      obtain rfl : [] = texts := Option.some.inj h
      rfl
  | cons item items ih =>
      have hrest : ∃ rest, Json.itemTexts items = some rest ∧ texts.length = rest.length + 1 := by
        cases item with
        | null =>
            simp only [Json.itemTexts, Option.map_eq_some_iff] at h
            obtain ⟨rest, hrest, rfl⟩ := h
            exact ⟨rest, hrest, rfl⟩
        | _ =>
            simp only [Json.itemTexts] at h
            split at h
            · next text rest htext hrest =>
              obtain rfl := Option.some.inj h
              exact ⟨rest, hrest, rfl⟩
            · cases h
      obtain ⟨rest, hrest, hlength⟩ := hrest
      rw [hlength, ih hrest, List.length_cons]

theorem plain_of_prints (ordered : JsString → JsString → Bool) (htext : value.toText = some s) (hs : isLowerWord s = true) :
    numberless value = true ∧ sortKeys ordered value = value := by
  induction value using Json.induct with
  | null => exact ⟨rfl, rfl⟩
  | bool b => exact ⟨rfl, rfl⟩
  | string t => exact ⟨rfl, rfl⟩
  | number n =>
      rw [Json.toText, Option.some.injEq] at htext
      rw [← htext, not_isLowerWord_number] at hs
      cases hs
  | object properties ih =>
      rw [Json.toText] at htext
      split at htext
      · cases htext
      · have hno : isLowerWord (js "[object Object]") = false := by decide
        rw [← Option.some.inj htext, hno] at hs
        cases hs
  | array items ih =>
      rw [Json.toText, Option.map_eq_some_iff] at htext
      obtain ⟨texts, htexts, hjoin⟩ := htext
      cases items with
      | nil =>
          obtain rfl : [] = texts := Option.some.inj htexts
          rw [← hjoin] at hs
          cases hs
      | cons item items =>
          cases items with
          | nil =>
              have hitem : item.toText = some s ∨ s = [] := by
                cases item with
                | null =>
                    right
                    obtain rfl : [[]] = texts := Option.some.inj htexts
                    exact hjoin.symm
                | _ =>
                    left
                    simp only [Json.itemTexts] at htexts
                    split at htexts
                    · next text rest htext hrest =>
                      obtain rfl := Option.some.inj hrest
                      obtain rfl := Option.some.inj htexts
                      rw [htext, ← hjoin]
                      rfl
                    · cases htexts
              rcases hitem with hitem | rfl
              · obtain ⟨hnumberless, hsorted⟩ := ih item List.mem_cons_self hitem
                simp [numberless, numberlessItems, sortKeys, sortKeysItems, hnumberless, hsorted]
              · cases hs
          | cons next items =>
              have hlength := length_itemTexts htexts
              rcases texts with - | ⟨first, - | ⟨second, rest⟩⟩
              · cases hlength
              · cases hlength
              · have hcomma : (0x2C : UInt16) ∈ s := by
                  rw [← hjoin, join]
                  simp [js, encodeChar]
                rw [isLowerWord, decide_eq_true_eq] at hs
                exact absurd (hs.2 0x2C hcomma) (by decide)

end Words

section Texts

variable {ordered : JsString → JsString → Bool} {α : Type} {encode : α → Json}

theorem numberless_string (s : JsString) : numberless (.string s) = true := rfl

theorem numberless_textsJson (list : List JsString) : numberless (textsJson list) = true := by
  refine numberlessItems_iff.mpr fun item hitem => ?_
  obtain ⟨s, -, rfl⟩ := List.mem_map.mp hitem
  rfl

theorem sortKeys_textsJson (list : List JsString) :
    sortKeys ordered (textsJson list) = textsJson list := by
  rw [textsJson, sortKeys, sortKeysItems_eq, List.map_map]
  rfl

theorem textsJson_inj {list list' : List JsString} (h : textsJson list = textsJson list') :
    list = list' := by
  rw [textsJson, textsJson, Json.array.injEq] at h
  exact List.map_injective_iff.mpr (fun _ _ => Json.string.inj) h

/-- Lists of records are alike with their keys sorted only if they are alike, when the
records are so. -/
theorem records_inj {list list' : List α}
    (hinj : ∀ a ∈ list, ∀ b ∈ list', sortKeys ordered (encode a) = sortKeys ordered (encode b) → a
      = b)
    (h : sortKeys ordered (.array (list.map encode)) = sortKeys ordered (.array (list'.map
      encode))) : list = list' := by
  rw [sortKeys, sortKeys, sortKeysItems_eq, sortKeysItems_eq, Json.array.injEq, List.map_map,
    List.map_map] at h
  induction list generalizing list' with
  | nil => exact (List.map_eq_nil_iff.mp h.symm).symm
  | cons a list ih =>
      cases list' with
      | nil => cases h
      | cons b list' =>
          obtain ⟨hhead, htail⟩ := List.cons.inj h
          obtain rfl := hinj a List.mem_cons_self b List.mem_cons_self hhead
          rw [ih (fun a' ha' b' hb' => hinj a' (List.mem_cons_of_mem a ha') b'
            (List.mem_cons_of_mem a hb')) htail]

/-- The kind and the cost of an element are words. -/
structure SpecSolutionElement.Worded (element : SpecSolutionElement) : Prop where
  kind : ∃ s, element.kind.toText = some s ∧ isLowerWord s = true
  estimatedCost : ∃ s, element.estimatedCost.toText = some s ∧ isLowerWord s = true

variable {element : SpecSolutionElement}

theorem SpecSolutionElement.Checked.worded {item : Json} (h : element.Checked item) :
    element.Worded := by
  have hkinds : ∀ word ∈ solutionElementKinds, isLowerWord (js word) = true := by decide
  have hcosts : ∀ word ∈ estimatedCosts, isLowerWord (js word) = true := by decide
  obtain ⟨kind, hkind, hkindText⟩ := h.kind.2
  obtain ⟨cost, hcost, hcostText⟩ := h.estimatedCost.2
  exact ⟨⟨_, hkindText, hkinds kind hkind⟩, ⟨_, hcostText, hcosts cost hcost⟩⟩

theorem SpecBundle.Checked.worded {value : Json} {bundle : SpecBundle}
    (h : bundle.Checked value) : ∀ element ∈ bundle.solutionElements, element.Worded := by
  intro element helement
  obtain ⟨items, -, hall, -⟩ := h.solutionElements
  obtain ⟨item, -, hitem⟩ := exists_left_of_forall₂ hall helement
  exact hitem.worded

theorem SpecRequirement.sortKeys_inj {a b : SpecRequirement}
    (h : sortKeys ordered a.toJson = sortKeys ordered b.toJson) : a = b := by
  have hvalues := sortKeys_object_inj h rfl (by simp only [List.map]; decide)
  simp only [List.map_cons, List.map_nil, sortKeys, sortKeys_textsJson, List.cons.injEq,
    Json.string.injEq, and_true] at hvalues
  obtain ⟨hid, hstatement, hrefs⟩ := hvalues
  have hlist := textsJson_inj hrefs
  cases a
  cases b
  simp_all

theorem SpecComponent.sortKeys_inj {a b : SpecComponent}
    (h : sortKeys ordered a.toJson = sortKeys ordered b.toJson) : a = b := by
  have hvalues := sortKeys_object_inj h rfl (by simp only [List.map]; decide)
  simp only [List.map_cons, List.map_nil, sortKeys, sortKeys_textsJson, List.cons.injEq,
    Json.string.injEq, and_true] at hvalues
  obtain ⟨hid, hname, hresponsibility, hrefs⟩ := hvalues
  have hlist := textsJson_inj hrefs
  cases a
  cases b
  simp_all

theorem SpecSolutionElement.sortKeys_inj {a b : SpecSolutionElement} (ha : a.Worded)
    (hb : b.Worded) (h : sortKeys ordered a.toJson = sortKeys ordered b.toJson) : a = b := by
  have hsorted : ∀ {value : Json}, (∃ s, value.toText = some s ∧ isLowerWord s = true) →
      sortKeys ordered value = value := by
    rintro value ⟨s, htext, hs⟩
    exact (plain_of_prints ordered htext hs).2
  have hvalues := sortKeys_object_inj h rfl (by simp only [List.map]; decide)
  simp only [List.map_cons, List.map_nil, sortKeys, sortKeys_textsJson, List.cons.injEq,
    Json.string.injEq, and_true, hsorted ha.kind, hsorted hb.kind, hsorted ha.estimatedCost,
    hsorted hb.estimatedCost] at hvalues
  obtain ⟨hid, htitle, hkind, hdescription, hrefs, hconstraints, hcost, himpact, hevidence⟩ :=
    hvalues
  have hrefsList := textsJson_inj hrefs
  have hconstraintsList := textsJson_inj hconstraints
  have hevidenceList := textsJson_inj hevidence
  cases a
  cases b
  simp_all

theorem SpecProposal.sortKeys_inj {a b : SpecProposal}
    (h : sortKeys ordered a.toJson = sortKeys ordered b.toJson) : a = b := by
  have hvalues := sortKeys_object_inj h rfl (by simp only [List.map]; decide)
  simp only [List.map_cons, List.map_nil, sortKeys, sortKeys_textsJson, List.cons.injEq,
    Json.string.injEq, and_true] at hvalues
  obtain ⟨hsummary, hvalue, hin, hout, hslices⟩ := hvalues
  have hinList := textsJson_inj hin
  have houtList := textsJson_inj hout
  have hslicesList := textsJson_inj hslices
  cases a
  cases b
  simp_all

theorem SpecPrd.sortKeys_inj {a b : SpecPrd}
    (h : sortKeys ordered a.toJson = sortKeys ordered b.toJson) : a = b := by
  have hvalues := sortKeys_object_inj h rfl (by simp only [List.map]; decide)
  simp only [List.map_cons, List.map_nil, sortKeys_textsJson, List.cons.injEq, and_true]
    at hvalues
  obtain ⟨hproblem, husers, hrequirements, hnonGoals, hconstraints⟩ := hvalues
  have hproblemText := Json.string.inj hproblem
  have husersList := textsJson_inj husers
  have hrequirementList := records_inj (fun _ _ _ _ => SpecRequirement.sortKeys_inj) hrequirements
  have hnonGoalsList := textsJson_inj hnonGoals
  have hconstraintsList := textsJson_inj hconstraints
  cases a
  cases b
  simp_all

theorem SpecArchitecture.sortKeys_inj {a b : SpecArchitecture}
    (h : sortKeys ordered a.toJson = sortKeys ordered b.toJson) : a = b := by
  have hvalues := sortKeys_object_inj h rfl (by simp only [List.map]; decide)
  simp only [List.map_cons, List.map_nil, sortKeys_textsJson, List.cons.injEq, and_true]
    at hvalues
  obtain ⟨hsummary, hcomponents, hdecisions⟩ := hvalues
  have hsummaryText := Json.string.inj hsummary
  have hcomponentList := records_inj (fun _ _ _ _ => SpecComponent.sortKeys_inj) hcomponents
  have hdecisionList := textsJson_inj hdecisions
  cases a
  cases b
  simp_all

theorem SpecMigration.sortKeys_inj {a b : SpecMigration}
    (h : sortKeys ordered a.toJson = sortKeys ordered b.toJson) : a = b := by
  have hvalues := sortKeys_object_inj h rfl (by simp only [List.map]; decide)
  simp only [List.map_cons, List.map_nil, sortKeys, sortKeys_textsJson, List.cons.injEq,
    Json.bool.injEq, and_true] at hvalues
  obtain ⟨hrequired, hsteps, hverification⟩ := hvalues
  have hstepList := textsJson_inj hsteps
  have hverificationList := textsJson_inj hverification
  cases a
  cases b
  simp_all

theorem SpecRollback.sortKeys_inj {a b : SpecRollback}
    (h : sortKeys ordered a.toJson = sortKeys ordered b.toJson) : a = b := by
  have hvalues := sortKeys_object_inj h rfl (by simp only [List.map]; decide)
  simp only [List.map_cons, List.map_nil, sortKeys, sortKeys_textsJson, List.cons.injEq,
    Json.string.injEq, and_true] at hvalues
  obtain ⟨htriggers, hsteps, hrecovery⟩ := hvalues
  have htriggerList := textsJson_inj htriggers
  have hstepList := textsJson_inj hsteps
  cases a
  cases b
  simp_all

variable {a b : SpecBundle}

theorem SpecBundle.sortKeys_inj (ha : ∀ element ∈ a.solutionElements, element.Worded)
    (hb : ∀ element ∈ b.solutionElements, element.Worded)
    (h : sortKeys ordered a.toJson = sortKeys ordered b.toJson) : a = b := by
  have hvalues := sortKeys_object_inj h rfl (by simp only [List.map]; decide)
  simp only [List.map_cons, List.map_nil, List.cons.injEq, and_true, true_and] at hvalues
  obtain ⟨hproposal, hprd, harchitecture, hmigration, hrollback, helements⟩ := hvalues
  have hproposal' := SpecProposal.sortKeys_inj hproposal
  have hprd' := SpecPrd.sortKeys_inj hprd
  have harchitecture' := SpecArchitecture.sortKeys_inj harchitecture
  have hmigration' := SpecMigration.sortKeys_inj hmigration
  have hrollback' := SpecRollback.sortKeys_inj hrollback
  have helements' := records_inj (fun x hx y hy =>
    SpecSolutionElement.sortKeys_inj (ha x hx) (hb y hy)) helements
  cases a
  cases b
  simp_all

theorem numberless_object {fields : List (JsString × Json)}
    (h : ∀ p ∈ fields, numberless p.2 = true) : numberless (.object fields) = true := by
  rw [numberless]
  exact numberlessEntries_iff.mpr h

theorem numberless_records {list : List α} (h : ∀ a ∈ list, numberless (encode a) = true) :
    numberless (.array (list.map encode)) = true := by
  rw [numberless]
  refine numberlessItems_iff.mpr fun item hitem => ?_
  obtain ⟨a, ha, rfl⟩ := List.mem_map.mp hitem
  exact h a ha

theorem SpecSolutionElement.Worded.numberless (h : element.Worded) :
    numberless element.toJson = true := by
  obtain ⟨⟨kind, hkind, hkindWord⟩, ⟨cost, hcost, hcostWord⟩⟩ := h
  have hkindPlain := (plain_of_prints (fun _ _ => true) hkind hkindWord).1
  have hcostPlain := (plain_of_prints (fun _ _ => true) hcost hcostWord).1
  refine numberless_object ?_
  simp [hkindPlain, hcostPlain, numberless_textsJson, JsText.numberless]

theorem SpecMigration.numberless (migration : SpecMigration) :
    numberless migration.toJson = true :=
  numberless_object (by simp [numberless_textsJson, JsText.numberless])

theorem SpecRollback.numberless (rollback : SpecRollback) : numberless rollback.toJson = true :=
  numberless_object (by simp [numberless_textsJson, numberless_string])

theorem numberless_bundle (h : ∀ element ∈ a.solutionElements, element.Worded) :
    numberless a.toJson = true := by
  have hrequirements : numberless
      (.array (a.prd.requirements.map SpecRequirement.toJson)) = true :=
    numberless_records fun requirement _ => numberless_object (by
      simp [numberless_textsJson, numberless])
  have hcomponents : numberless
      (.array (a.architecture.components.map SpecComponent.toJson)) = true :=
    numberless_records fun component _ => numberless_object (by
      simp [numberless_textsJson, numberless])
  have helements : numberless
      (.array (a.solutionElements.map SpecSolutionElement.toJson)) = true :=
    numberless_records fun element helement => (h element helement).numberless
  have hproposal : numberless a.proposal.toJson = true :=
    numberless_object (by simp [numberless_textsJson, numberless])
  have hprd : numberless a.prd.toJson = true :=
    numberless_object (by simp [numberless_textsJson, hrequirements, numberless_string])
  have harchitecture : numberless a.architecture.toJson = true :=
    numberless_object (by simp [numberless_textsJson, hcomponents, numberless_string])
  refine numberless_object ?_
  simp [hproposal, hprd, harchitecture, a.migration.numberless, a.rollback.numberless, helements,
    numberless_string]

theorem canonicalJson_bundle_inj (ha : ∀ element ∈ a.solutionElements, element.Worded)
    (hb : ∀ element ∈ b.solutionElements, element.Worded) :
    canonicalJson ordered a.toJson = canonicalJson ordered b.toJson ↔ a = b := by
  rw [canonicalJson_inj (numberless_bundle ha) (numberless_bundle hb)]
  constructor
  · exact SpecBundle.sortKeys_inj ha hb
  · rintro rfl
    rfl

end Texts

section Changes

variable {part : SpecDiffSection} {path : JsString} {requirements : List SpecRequirement}
  {requirement : SpecRequirement} {id : JsString}

theorem compareValue_eq_nil {before after : Json} :
    compareValue part path before after = [] ↔ printable before = printable after := by
  unfold compareValue
  by_cases heq : printable before = printable after
  · simp [heq]
  · simp [heq]

theorem compareValue_string_eq_nil {before after : JsString} :
    compareValue part path (.string before) (.string after) = [] ↔ before = after :=
  compareValue_eq_nil

theorem compareValue_json_eq_nil {before after : Json} (hbefore : numberless before = true)
    (hafter : numberless after = true) (hstring : before.isString = false)
    (hstring' : after.isString = false) :
    compareValue part path before after = [] ↔ before = after := by
  have hprint : ∀ {value : Json}, value.isString = false → printable value = stringify value := by
    intro value hvalue
    cases value with
    | string s => cases hvalue
    | _ => rfl
  rw [compareValue_eq_nil, hprint hstring, hprint hstring']
  constructor
  · exact stringify_inj hbefore hafter
  · exact congrArg stringify

theorem compareList_eq_nil {before after : List JsString} (hbefore : before.Nodup)
    (hafter : after.Nodup) : compareList part path before after = [] ↔ before.Perm after := by
  rw [List.perm_ext_iff_of_nodup hbefore hafter]
  simp only [compareList, List.append_eq_nil_iff, List.map_eq_nil_iff, List.filter_eq_nil_iff,
    decide_eq_true_eq, not_not]
  constructor
  · rintro ⟨hkept, hknown⟩ value
    exact ⟨hkept value, hknown value⟩
  · intro hsame
    exact ⟨fun value => (hsame value).mp, fun value => (hsame value).mpr⟩

theorem requirementById_eq_some (hnodup : (requirements.map (·.id)).Nodup) :
    requirementById requirements id = some requirement ↔
      requirement ∈ requirements ∧ requirement.id = id := by
  unfold requirementById
  constructor
  · intro hfind
    have hid := List.find?_some hfind
    exact ⟨List.mem_reverse.mp (List.mem_of_find?_eq_some hfind), of_decide_eq_true hid⟩
  · rintro ⟨hmem, hid⟩
    rcases hfind : requirements.reverse.find? fun requirement => requirement.id = id with _ | found
    · have hnone := List.find?_eq_none.mp hfind requirement (List.mem_reverse.mpr hmem)
      exact absurd (decide_eq_true hid) hnone
    · have hfoundId := List.find?_some hfind
      rw [decide_eq_true_eq] at hfoundId
      have hfound := List.mem_reverse.mp (List.mem_of_find?_eq_some hfind)
      rw [List.inj_on_of_nodup_map hnodup hmem hfound (hid.trans hfoundId.symm)]
      exact hfind

theorem requirementById_eq_none :
    requirementById requirements id = none ↔ ∀ requirement ∈ requirements,
      requirement.id ≠ id := by
  unfold requirementById
  rw [List.find?_eq_none]
  simp

theorem compareRequirement_eq_nil {after : List SpecRequirement}
    (hnodup : (after.map (·.id)).Nodup) (hrefs : requirement.acceptanceCriterionRefs.Nodup)
    (hrefs' : ∀ current ∈ after, current.acceptanceCriterionRefs.Nodup) :
    compareRequirement after requirement = [] ↔
      ∃ current ∈ after, SameRequirement requirement current := by
  unfold compareRequirement
  rcases hfind : requirementById after requirement.id with _ | current
  · simp only [reduceCtorEq, false_iff, not_exists, not_and]
    intro current hcurrent hsame
    exact requirementById_eq_none.mp hfind current hcurrent hsame.id.symm
  · obtain ⟨hcurrent, hid⟩ := (requirementById_eq_some hnodup).mp hfind
    simp only [List.append_eq_nil_iff, compareValue_string_eq_nil,
      compareList_eq_nil hrefs (hrefs' current hcurrent)]
    constructor
    · rintro ⟨hstatement, hperm⟩
      exact ⟨current, hcurrent, hid.symm, hstatement, hperm⟩
    · rintro ⟨other, hother, hsame⟩
      have heq := List.inj_on_of_nodup_map hnodup hcurrent hother (hid.trans hsame.id)
      rw [heq]
      exact ⟨hsame.statement, hsame.refs⟩

theorem BoundedTexts.nodup {value : Json} {minimum : ℕ} {list : List JsString}
    (h : BoundedTexts value minimum list) : list.Nodup := by
  obtain ⟨items, -, -, -, -, hnodup⟩ := h
  exact hnodup

theorem SpecPrd.Checked.refs_nodup {value : Json} {prd : SpecPrd} (h : prd.Checked value) :
    (prd.requirements.map (·.id)).Nodup ∧
      ∀ requirement ∈ prd.requirements, requirement.acceptanceCriterionRefs.Nodup := by
  obtain ⟨items, -, hall, hnodup⟩ := h.requirements
  refine ⟨hnodup, fun requirement hrequirement => ?_⟩
  obtain ⟨item, -, hitem⟩ := exists_left_of_forall₂ hall hrequirement
  exact hitem.acceptanceCriterionRefs.nodup

variable {before after : SpecBundle} {value value' : Json}

theorem proposalChanges_eq_nil (hbefore : before.Checked value) (hafter : after.Checked value') :
    proposalChanges before.proposal after.proposal = [] ↔
      before.proposal.summary = after.proposal.summary ∧
      before.proposal.value = after.proposal.value ∧
      before.proposal.inScope.Perm after.proposal.inScope ∧
      before.proposal.outOfScope.Perm after.proposal.outOfScope ∧
      before.proposal.deliverySlices.Perm after.proposal.deliverySlices := by
  simp only [proposalChanges, List.append_eq_nil_iff, compareValue_string_eq_nil,
    compareList_eq_nil hbefore.proposal.inScope.nodup hafter.proposal.inScope.nodup,
    compareList_eq_nil hbefore.proposal.outOfScope.nodup hafter.proposal.outOfScope.nodup,
    compareList_eq_nil hbefore.proposal.deliverySlices.nodup
      hafter.proposal.deliverySlices.nodup, and_assoc]

theorem prdChanges_eq_nil (hbefore : before.Checked value) (hafter : after.Checked value') :
    prdChanges before.prd after.prd = [] ↔
      before.prd.problem = after.prd.problem ∧ before.prd.users.Perm after.prd.users ∧
      before.prd.nonGoals.Perm after.prd.nonGoals ∧
      before.prd.constraints.Perm after.prd.constraints ∧
      (∀ requirement ∈ before.prd.requirements,
        ∃ current ∈ after.prd.requirements, SameRequirement requirement current) ∧
      ∀ current ∈ after.prd.requirements,
        ∃ requirement ∈ before.prd.requirements, SameRequirement requirement current := by
  obtain ⟨hids, hrefs⟩ := hbefore.prd.refs_nodup
  obtain ⟨hids', hrefs'⟩ := hafter.prd.refs_nodup
  have hkept : (∀ requirement ∈ before.prd.requirements,
      compareRequirement after.prd.requirements requirement = []) ↔
      ∀ requirement ∈ before.prd.requirements,
        ∃ current ∈ after.prd.requirements, SameRequirement requirement current :=
    forall₂_congr fun requirement hrequirement =>
      compareRequirement_eq_nil hids' (hrefs requirement hrequirement) hrefs'
  simp only [prdChanges, List.append_eq_nil_iff, compareValue_string_eq_nil,
    compareList_eq_nil hbefore.prd.users.nodup hafter.prd.users.nodup,
    compareList_eq_nil hbefore.prd.nonGoals.nodup hafter.prd.nonGoals.nodup,
    compareList_eq_nil hbefore.prd.constraints.nodup hafter.prd.constraints.nodup,
    List.flatMap_eq_nil_iff, hkept, addedRequirements, List.map_eq_nil_iff,
    List.filter_eq_nil_iff, decide_eq_true_eq, and_assoc]
  refine and_congr_right fun _ => and_congr_right fun _ => and_congr_right fun _ =>
    and_congr_right fun _ => and_congr_right fun hsame => ?_
  -- A requirement is known by its id, and the one with that id has been compared.
  constructor
  · intro hknown current hcurrent
    obtain ⟨requirement, hfound⟩ := Option.ne_none_iff_exists'.mp (hknown current hcurrent)
    obtain ⟨hmem, hid⟩ := (requirementById_eq_some hids).mp hfound
    obtain ⟨other, hother, hsameOther⟩ := hsame requirement hmem
    have heq := List.inj_on_of_nodup_map hids' hother hcurrent (hsameOther.id.symm.trans hid)
    exact ⟨requirement, hmem, heq ▸ hsameOther⟩
  · intro hall current hcurrent hnone
    obtain ⟨requirement, hmem, hsameCurrent⟩ := hall current hcurrent
    exact requirementById_eq_none.mp hnone requirement hmem hsameCurrent.id

theorem records_eq_nil {α : Type} {encode : α → Json} {list list' : List α}
    (hnumberless : ∀ a ∈ list, numberless (encode a) = true)
    (hnumberless' : ∀ a ∈ list', numberless (encode a) = true)
    (hinj : ∀ a ∈ list, ∀ b ∈ list', sortKeys (fun _ _ => true) (encode a) =
      sortKeys (fun _ _ => true) (encode b) → a = b) :
    compareValue part path (.array (list.map encode)) (.array (list'.map encode)) = [] ↔
      list = list' := by
  rw [compareValue_json_eq_nil (numberless_records hnumberless)
    (numberless_records hnumberless') rfl rfl]
  constructor
  · intro heq
    exact records_inj hinj (congrArg (sortKeys fun _ _ => true) heq)
  · rintro rfl
    rfl

theorem architectureChanges_eq_nil (hbefore : before.Checked value)
    (hafter : after.Checked value') :
    architectureChanges before.architecture after.architecture = [] ↔
      before.architecture.summary = after.architecture.summary ∧
      before.architecture.components = after.architecture.components ∧
      before.architecture.decisions.Perm after.architecture.decisions := by
  have hnumberless : ∀ component : SpecComponent, numberless component.toJson = true :=
    fun component => numberless_object (by simp [numberless_textsJson, numberless])
  simp only [architectureChanges, List.append_eq_nil_iff, compareValue_string_eq_nil,
    records_eq_nil (fun component _ => hnumberless component)
      (fun component _ => hnumberless component) (fun _ _ _ _ => SpecComponent.sortKeys_inj),
    compareList_eq_nil hbefore.architecture.decisions.nodup
      hafter.architecture.decisions.nodup, and_assoc]

theorem specChanges_eq_nil (hbefore : before.Checked value) (hafter : after.Checked value') :
    specChanges before after = [] ↔ Reordered before after := by
  have hmigration : compareValue .migration (js "migration") before.migration.toJson
      after.migration.toJson = [] ↔ before.migration = after.migration := by
    rw [compareValue_json_eq_nil before.migration.numberless after.migration.numberless rfl rfl]
    constructor
    · intro heq
      exact SpecMigration.sortKeys_inj (congrArg (sortKeys fun _ _ => true) heq)
    · exact congrArg SpecMigration.toJson
  have hrollback : compareValue .rollback (js "rollback") before.rollback.toJson
      after.rollback.toJson = [] ↔ before.rollback = after.rollback := by
    rw [compareValue_json_eq_nil before.rollback.numberless after.rollback.numberless rfl rfl]
    constructor
    · intro heq
      exact SpecRollback.sortKeys_inj (congrArg (sortKeys fun _ _ => true) heq)
    · exact congrArg SpecRollback.toJson
  have helements : compareValue .solutionElements (js "solutionElements")
      (.array (before.solutionElements.map SpecSolutionElement.toJson))
      (.array (after.solutionElements.map SpecSolutionElement.toJson)) = [] ↔
      before.solutionElements = after.solutionElements := records_eq_nil
    (fun element helement => (hbefore.worded element helement).numberless)
    (fun element helement => (hafter.worded element helement).numberless)
    fun a ha b hb => SpecSolutionElement.sortKeys_inj (hbefore.worded a ha) (hafter.worded b hb)
  simp only [specChanges, List.append_eq_nil_iff, proposalChanges_eq_nil hbefore hafter,
    prdChanges_eq_nil hbefore hafter, architectureChanges_eq_nil hbefore hafter, hmigration,
    hrollback, helements]
  constructor
  · rintro ⟨⟨⟨⟨⟨⟨hsummary, hvalue, hin, hout, hslices⟩, hproblem, husers, hnonGoals,
      hconstraints, hkept, hknown⟩, hoverview, hcomponents, hdecisions⟩, hmigrated⟩, hrolled⟩,
      hsolutions⟩
    exact ⟨hsummary, hvalue, hin, hout, hslices, hproblem, husers, hnonGoals, hconstraints,
      hkept, hknown, hoverview, hcomponents, hdecisions, hmigrated, hrolled, hsolutions⟩
  · intro h
    exact ⟨⟨⟨⟨⟨⟨h.summary, h.value, h.inScope, h.outOfScope, h.deliverySlices⟩, h.problem,
      h.users, h.nonGoals, h.constraints, h.kept, h.known⟩, h.overview, h.components,
      h.decisions⟩, h.migration⟩, h.rollback⟩, h.solutionElements⟩

/-- The differences of two bundles are empty exactly if the first has the canonical text of
the second, up to the order of what is compared as a set. -/
theorem changes_eq_nil_iff {ordered : JsString → JsString → Bool}
    (hbefore : validateSpecBundle value = .ok before)
    (hafter : validateSpecBundle value' = .ok after) :
    (diffSpecBundles before after).changes = [] ↔ ∃ reordered, Reordered before reordered ∧
      canonicalJson ordered reordered.toJson = canonicalJson ordered after.toJson := by
  have hchecked := validateSpecBundle_eq_ok.mp hbefore
  have hchecked' := validateSpecBundle_eq_ok.mp hafter
  change specChanges before after = [] ↔ _
  rw [specChanges_eq_nil hchecked hchecked']
  constructor
  · intro hreordered
    exact ⟨after, hreordered, rfl⟩
  · rintro ⟨reordered, hreordered, hcanonical⟩
    have hworded : ∀ element ∈ reordered.solutionElements, element.Worded := by
      rw [← hreordered.solutionElements]
      exact hchecked.worded
    rw [← (canonicalJson_bundle_inj hworded hchecked'.worded).mp hcanonical]
    exact hreordered

end Changes

/-! ## A list in another order -/

def scopedBundle (inScope : List JsString) : SpecBundle where
  proposal :=
    { summary := js "proposal"
      value := js "value"
      inScope := inScope
      outOfScope := []
      deliverySlices := [js "API"] }
  prd :=
    { problem := js "problem"
      users := [js "Approver"]
      requirements := []
      nonGoals := []
      constraints := [] }
  architecture := { summary := js "one module", components := [], decisions := [js "one"] }
  migration := { required := false, steps := [], verification := [] }
  rollback := { triggers := [js "Failure"], steps := [js "Revert"], dataRecovery := js "None" }
  solutionElements := []

/-- A list in another order changes the canonical text and is no change. -/
theorem not_changes_iff_canonicalJson : ¬ ∀ (ordered : JsString → JsString → Bool)
    (value value' : Json) (before after : SpecBundle), validateSpecBundle value = .ok before →
    validateSpecBundle value' = .ok after →
    ((diffSpecBundles before after).changes = [] ↔
      canonicalJson ordered before.toJson = canonicalJson ordered after.toJson) := by
  intro hall
  let before := scopedBundle [js "Approval", js "Diff"]
  let after := scopedBundle [js "Diff", js "Approval"]
  have hbefore : validateSpecBundle before.toJson = .ok before := by decide +kernel
  have hafter : validateSpecBundle after.toJson = .ok after := by decide +kernel
  have hchanges : (diffSpecBundles before after).changes = [] := by decide +kernel
  have hcanonical := (hall (fun _ _ => true) _ _ before after hbefore hafter).mp hchanges
  have hsame := (canonicalJson_bundle_inj (by nofun) (by nofun)).mp hcanonical
  revert hsame
  decide +kernel

theorem changes_eq_nil_iff_scoped : ∃ reordered,
    Reordered (scopedBundle [js "Approval", js "Diff"]) reordered ∧
      canonicalJson (fun _ _ => true) reordered.toJson =
        canonicalJson (fun _ _ => true) (scopedBundle [js "Diff", js "Approval"]).toJson := by
  have hbefore : validateSpecBundle (scopedBundle [js "Approval", js "Diff"]).toJson =
      .ok (scopedBundle [js "Approval", js "Diff"]) := by
    decide +kernel
  have hafter : validateSpecBundle (scopedBundle [js "Diff", js "Approval"]).toJson =
      .ok (scopedBundle [js "Diff", js "Approval"]) := by
    decide +kernel
  exact (changes_eq_nil_iff hbefore hafter).mp (by decide +kernel)

end DevHarness.ControlPlane
