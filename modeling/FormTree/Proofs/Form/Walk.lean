import FormTree.Proofs.Form.Rows
import FormTree.Proofs.Path.Pointer

/-!
# Plans by lookups

A plan is made along an outline, in which every row is already classified and the children of every
container are known. Here the same plan is made without one: at each node the children are listed,
the schema node is looked up from the root, and each key is created and classified on its own, and
any of these calls may fail. `Walk` is that walk, with a log of the faults that came up in it.

Both ways give the same plan (`walk_make`), and the walk gives no other (`Walk.unique`). Of the four
calls only the listing of children can fail, and only by a structural mismatch.
-/

namespace FormTree

open Value Child

namespace Plan

open Outline

/-- The calls of a walk that can fail. -/
inductive Stage where
  /-- Creating the node of a row. -/
  | making
  /-- Listing the children of a node. -/
  | listing
  /-- Looking up the schema node. -/
  | looking
  /-- Classifying the key of a row. -/
  | classifying
deriving DecidableEq

structure Fault where
  stage : Stage
  error : FieldError

/-- A stretch of a plan with the faults that came up in it. -/
structure Leg where
  rows : List Row
  mismatches : List Mismatch
  faults : List Fault
  desk : Desk

/-- The children of a node and the schema node that classifies them. -/
def openNode (schema : Option Schema) (v : Value) (structural : List String) :
    Except Fault (List Child × Option Value) :=
  match Child.list v schema structural with
  | .error fault => .error ⟨.listing, fault⟩
  | .ok children =>
    match schema with
    | none => .ok (children, none)
    | some schema =>
      match schema.nodeAt structural with
      | .error fault => .error ⟨.looking, fault⟩
      | .ok node => .ok (children, some node)

/-- Without a schema there is nothing to classify by. -/
def classified (parent : Option Value) (child : Child) :
    Except FieldError (Option Classification) :=
  match parent with
  | none => .ok none
  | some node => (classify node child.path.dropLast child.key).map some

/-- What comes of a child: it is left out, or the walk of its siblings ends, or it has a row. -/
inductive Entry where
  | skipped (fault : FieldError) (v : Value)
  | stopped (fault : FieldError) (v : Value)
  | row (classification : Option Classification) (errors : List String) (desk : Desk)

def enter (frame : Frame) (parent : Option Value) (child : Child) (desk : Desk) : Entry :=
  match prepare frame desk.value child.path child.isContainer with
  | (v, .error fault) => .skipped fault v
  | (v, .ok _) =>
    match classified parent child with
    | .error fault => .stopped fault v
    | .ok classification =>
      let (errors, left) := desk.findings.take (Dotted.encode child.path)
      .row classification errors ⟨v, left⟩

/-- The row of a leaf, as classified. -/
def leafRowOf (frame : Frame) (child : Child) (classification : Option Classification)
    (v : Value) (errors : List String) : Row :=
  leafRow frame child.path child.key ((classification.map Classification.required).getD false)
    ((classification.map Classification.kind).getD .text) v errors

/-- The row of a container, as classified. -/
def groupRowOf (frame : Frame) (child : Child) (classification : Option Classification)
    (errors : List String) (fault? : Option FieldError) : Row :=
  groupRow frame child.path child.key ((classification.map Classification.required).getD false)
    errors fault?

/-- What is still to be walked: a node, or some of the children of one. -/
inductive Task where
  | node (structural : List String)
  | children (parent : Option Value) (rest : List Child)

/-- A task is done in a leg of the walk, with the fault by which it ended if it ended early. A child
that cannot be created is reported and left out, and so is what is below a container that cannot be
walked; a child that cannot be classified ends the walk of its siblings. -/
inductive Visit (frame : Frame) (schema : Option Schema) :
    Task → Desk → Leg → Option FieldError → Prop where
  | refused {structural : List String} {desk : Desk} {fault : Fault} :
    openNode schema desk.value structural = .error fault →
    Visit frame schema (.node structural) desk ⟨[], [], [fault], desk⟩ (some fault.error)
  | opened {structural : List String} {desk : Desk} {children : List Child}
      {parent : Option Value} {leg : Leg} {fault? : Option FieldError} :
    openNode schema desk.value structural = .ok (children, parent) →
    Visit frame schema (.children parent children) desk leg fault? →
    Visit frame schema (.node structural) desk leg fault?
  | done {parent : Option Value} {desk : Desk} :
    Visit frame schema (.children parent []) desk ⟨[], [], [], desk⟩ none
  | skipped {parent : Option Value} {child : Child} {rest : List Child} {desk : Desk}
      {fault : FieldError} {v : Value} {leg : Leg} {fault? : Option FieldError} :
    enter frame parent child desk = .skipped fault v →
    Visit frame schema (.children parent rest) { desk with value := v } leg fault? →
    Visit frame schema (.children parent (child :: rest)) desk
      ⟨leg.rows, mismatch child.path fault :: leg.mismatches, ⟨.making, fault⟩ :: leg.faults,
        leg.desk⟩ fault?
  | stopped {parent : Option Value} {child : Child} {rest : List Child} {desk : Desk}
      {fault : FieldError} {v : Value} :
    enter frame parent child desk = .stopped fault v →
    Visit frame schema (.children parent (child :: rest)) desk
      ⟨[], [], [⟨.classifying, fault⟩], { desk with value := v }⟩ (some fault)
  | leaf {parent : Option Value} {child : Child} {rest : List Child} {desk next : Desk}
      {classification : Option Classification} {errors : List String} {leg : Leg}
      {fault? : Option FieldError} :
    enter frame parent child desk = .row classification errors next → child.isContainer = false →
    Visit frame schema (.children parent rest) next leg fault? →
    Visit frame schema (.children parent (child :: rest)) desk
      ⟨leafRowOf frame child classification next.value errors :: leg.rows, leg.mismatches,
        leg.faults, leg.desk⟩ fault?
  | group {parent : Option Value} {child : Child} {rest : List Child} {desk next : Desk}
      {classification : Option Classification} {errors : List String} {below leg : Leg}
      {belowFault? fault? : Option FieldError} :
    enter frame parent child desk = .row classification errors next → child.isContainer = true →
    Visit frame schema (.node child.structural) next below belowFault? →
    Visit frame schema (.children parent rest) below.desk leg fault? →
    Visit frame schema (.children parent (child :: rest)) desk
      ⟨groupRowOf frame child classification errors belowFault? :: below.rows ++ leg.rows,
        below.mismatches ++ (belowFault?.map (mismatch child.path)).toList ++ leg.mismatches,
        below.faults ++ leg.faults, leg.desk⟩ fault?

/-- The plan that is read off the end of a walk. -/
def ofLeg (frame : Frame) (v : Value) (leg : Leg) : Plan :=
  { rows := leg.rows
    errors := leg.desk.findings.remaining
    mismatches := leg.mismatches
    materialized := if frame.builds && !leg.desk.value.same v then some leg.desk.value else none }

/-- The walk of a whole form: the plan and the faults that came up. A value that is no mapping is
not walked unless a schema says so. -/
inductive Walk (v : Value) (schema : Option Schema) (mode : Mode) (findings : List Finding)
    (settings : Settings) : Plan → List Fault → Prop where
  | bare : schema = none → v.isContainer = false →
    Walk v schema mode findings settings
      (ofLeg ⟨mode, schema.isSome, settings⟩ v ⟨[], [], [], ⟨v, .ofFindings findings⟩⟩) []
  | unmade {w : Value} {fault : FieldError} {leg : Leg} {fault? : Option FieldError} :
    (schema = none → v.isContainer = true) →
    prepare ⟨mode, schema.isSome, settings⟩ v [] true = (w, .error fault) →
    Visit ⟨mode, schema.isSome, settings⟩ schema (.node []) ⟨w, .ofFindings findings⟩ leg fault? →
    Walk v schema mode findings settings
      (ofLeg ⟨mode, schema.isSome, settings⟩ v
        { leg with mismatches :=
            mismatch [] fault :: leg.mismatches ++ (fault?.map (mismatch [])).toList })
      (⟨.making, fault⟩ :: leg.faults)
  | made {w : Value} {created : Bool} {leg : Leg} {fault? : Option FieldError} :
    (schema = none → v.isContainer = true) →
    prepare ⟨mode, schema.isSome, settings⟩ v [] true = (w, .ok created) →
    Visit ⟨mode, schema.isSome, settings⟩ schema (.node []) ⟨w, .ofFindings findings⟩ leg fault? →
    Walk v schema mode findings settings
      (ofLeg ⟨mode, schema.isSome, settings⟩ v
        { leg with mismatches := leg.mismatches ++ (fault?.map (mismatch [])).toList })
      leg.faults

/-! ### The walk is determined -/

theorem Visit.unique {frame : Frame} {schema : Option Schema} {task : Task} {desk : Desk}
    {leg other : Leg} {fault? otherFault? : Option FieldError}
    (h : Visit frame schema task desk leg fault?)
    (hother : Visit frame schema task desk other otherFault?) :
    leg = other ∧ fault? = otherFault? := by
  induction h generalizing other otherFault? with
  | refused hopen =>
    cases hother with
    | refused hother =>
      obtain rfl := Except.error.inj (hopen.symm.trans hother)
      exact ⟨rfl, rfl⟩
    | opened hother _ => nomatch hopen.symm.trans hother
  | opened hopen _ ih =>
    cases hother with
    | refused hother => nomatch hopen.symm.trans hother
    | opened hother hothers =>
      obtain ⟨rfl, rfl⟩ := Prod.mk.inj (Except.ok.inj (hopen.symm.trans hother))
      exact ih hothers
  | done =>
    cases hother with
    | done => exact ⟨rfl, rfl⟩
  | skipped henter _ ih =>
    cases hother with
    | skipped hother hothers =>
      obtain ⟨rfl, rfl⟩ := Entry.skipped.inj (henter.symm.trans hother)
      obtain ⟨rfl, rfl⟩ := ih hothers
      exact ⟨rfl, rfl⟩
    | stopped hother => nomatch henter.symm.trans hother
    | leaf hother _ _ => nomatch henter.symm.trans hother
    | group hother _ _ _ => nomatch henter.symm.trans hother
  | stopped henter =>
    cases hother with
    | skipped hother _ => nomatch henter.symm.trans hother
    | stopped hother =>
      obtain ⟨rfl, rfl⟩ := Entry.stopped.inj (henter.symm.trans hother)
      exact ⟨rfl, rfl⟩
    | leaf hother _ _ => nomatch henter.symm.trans hother
    | group hother _ _ _ => nomatch henter.symm.trans hother
  | leaf henter hkind _ ih =>
    cases hother with
    | skipped hother _ => nomatch henter.symm.trans hother
    | stopped hother => nomatch henter.symm.trans hother
    | leaf hother _ hothers =>
      obtain ⟨rfl, rfl, rfl⟩ := Entry.row.inj (henter.symm.trans hother)
      obtain ⟨rfl, rfl⟩ := ih hothers
      exact ⟨rfl, rfl⟩
    | group _ hother _ _ => nomatch hkind.symm.trans hother
  | group henter hkind _ _ ihBelow ih =>
    cases hother with
    | skipped hother _ => nomatch henter.symm.trans hother
    | stopped hother => nomatch henter.symm.trans hother
    | leaf _ hother _ => nomatch hkind.symm.trans hother
    | group hother _ hbelow hothers =>
      obtain ⟨rfl, rfl, rfl⟩ := Entry.row.inj (henter.symm.trans hother)
      obtain ⟨rfl, rfl⟩ := ihBelow hbelow
      obtain ⟨rfl, rfl⟩ := ih hothers
      exact ⟨rfl, rfl⟩

theorem Walk.unique {v : Value} {schema : Option Schema} {mode : Mode} {findings : List Finding}
    {settings : Settings} {plan other : Plan} {faults others : List Fault}
    (h : Walk v schema mode findings settings plan faults)
    (hother : Walk v schema mode findings settings other others) :
    plan = other ∧ faults = others := by
  cases h with
  | bare hfree hbare =>
    cases hother with
    | bare _ _ => exact ⟨rfl, rfl⟩
    | unmade hsome _ _ => exact absurd (hsome hfree) (by rw [hbare]; decide)
    | made hsome _ _ => exact absurd (hsome hfree) (by rw [hbare]; decide)
  | unmade hsome hprepare hvisit =>
    cases hother with
    | bare hfree hbare => exact absurd (hsome hfree) (by rw [hbare]; decide)
    | unmade _ hother hvisits =>
      obtain ⟨rfl, hfault⟩ := Prod.mk.inj (hprepare.symm.trans hother)
      obtain rfl := Except.error.inj hfault
      obtain ⟨rfl, rfl⟩ := hvisit.unique hvisits
      exact ⟨rfl, rfl⟩
    | made _ hother _ => nomatch (Prod.mk.inj (hprepare.symm.trans hother)).2
  | made hsome hprepare hvisit =>
    cases hother with
    | bare hfree hbare => exact absurd (hsome hfree) (by rw [hbare]; decide)
    | unmade _ hother _ => nomatch (Prod.mk.inj (hprepare.symm.trans hother)).2
    | made _ hother hvisits =>
      obtain ⟨rfl, -⟩ := Prod.mk.inj (hprepare.symm.trans hother)
      obtain ⟨rfl, rfl⟩ := hvisit.unique hvisits
      exact ⟨rfl, rfl⟩

/-! ### The walk along an outline -/

/-- The branches are those below the node at a path, in the form of a value under a schema. -/
def Describes (schema : Option Schema) (v : Value) (path : KeyPath) (structural : List String)
    (branches : List Branch) : Prop :=
  match schema with
  | none => structural = path ∧ ∃ members, v.get? path = some (.obj members) ∧
      branches = ofMembers members
  | some schema => structural = structuralPath path ∧
      ∃ node, SchemaNode.descend? schema.root path = some node ∧ branches = ofNode node

/-- The child of a node is for a branch: it is classified as the branch says, and the branches below
it are those of the outline. -/
structure Follows (schema : Option Schema) (v : Value) (above : KeyPath) (parent : Option Value)
    (child : Child) (branch : Branch) : Prop where
  key : child.key = branch.1
  path : child.path = above ++ [branch.1]
  isContainer : child.isContainer = branch.2.2.isGroup
  classified : ∃ classification, classified parent child = .ok classification ∧
    (classification.map Classification.required).getD false = branch.2.1 ∧
    ∀ kind, branch.2.2 = .leaf kind → (classification.map Classification.kind).getD .text = kind
  below : ∀ inside, branch.2.2 = .group inside →
    Describes schema v (above ++ [branch.1]) child.structural inside

section Agreement

variable {schema : Option Schema} {v w node : Value} {path : KeyPath} {structural : List String}
  {branches : List Branch} {members : List (String × Value)}

theorem follows_ofProperty {schema : Schema} {entry : String × Value} (hnode : node.Ordered)
    (hdescend : SchemaNode.descend? schema.root path = some node)
    (hentry : entry ∈ SchemaNode.properties node) :
    Follows (some schema) v path (some node) (Child.ofProperty (structuralPath path) entry)
      (entry.1, SchemaNode.isRequired node entry.1, Outline.ofProperty entry.2) := by
  obtain ⟨key, child⟩ := entry
  have hpath : (Child.ofProperty (structuralPath path) (key, child)).path = path ++ [key] := by
    rw [Child.ofProperty, valuePath_structuralPath]
  have hproperty : SchemaNode.property? node key = some child := by
    rw [SchemaNode.property?_eq_find?]
    exact Members.find?_of_mem (SchemaNode.nodup_properties hnode) hentry
  have hclassified : classified (some node) (Child.ofProperty (structuralPath path) (key, child)) =
      .ok (some ⟨(InputKind.ofNode child).jsonType, .ofNode child,
        SchemaNode.isRequired node key⟩) := by
    rw [classified, hpath, List.dropLast_concat]
    exact congrArg (Except.map some) (classify_of_property? hproperty path)
  refine ⟨rfl, hpath, (isGroup_ofProperty child).symm, ⟨_, hclassified, rfl, ?_⟩, ?_⟩
  · intro kind hleaf
    have hkind : (Outline.ofProperty child).kind? = some kind := congrArg Outline.kind? hleaf
    rw [kind?_ofProperty] at hkind
    split at hkind
    · exact absurd hkind.symm (Option.some_ne_none kind)
    · exact Option.some.inj hkind
  · intro inside hgroup
    obtain ⟨-, rfl⟩ := ofProperty_eq_group_iff.1 hgroup
    refine ⟨(structuralPath_concat path key).symm, child, ?_, rfl⟩
    rw [SchemaNode.descend?_concat, hdescend, Option.bind_some, hproperty]

theorem follows_ofMember {entry : String × Value} (hmembers : (Value.obj members).Ordered)
    (hnode : v.get? path = some (.obj members)) (hentry : entry ∈ members) :
    Follows none v path none (Child.ofMember path entry)
      (entry.1, false, ofValue entry.2) := by
  obtain ⟨key, child⟩ := entry
  refine ⟨rfl, rfl, (isGroup_ofValue child).symm, ⟨none, rfl, rfl, ?_⟩, ?_⟩
  · intro kind hleaf
    cases child with
    | obj inside => exact Outline.noConfusion hleaf
    | _ => exact Outline.leaf.inj hleaf
  · intro inside hgroup
    obtain ⟨more, rfl, rfl⟩ := ofValue_eq_group_iff.1 hgroup
    have hfind := Members.find?_of_mem hmembers.nodup_members hentry
    exact ⟨rfl, more, get?_concat_eq_some_iff.2 ⟨members, hnode, hfind⟩, rfl⟩

theorem openNode_governed {schema : Schema} (hnode : node.Ordered)
    (hdescend : SchemaNode.descend? schema.root path = some node) (w : Value) :
    (∃ fault, objection? w (keys (ofNode node)) path = some fault ∧
        openNode (some schema) w (structuralPath path) = .error ⟨.listing, fault⟩) ∨
      (objection? w (keys (ofNode node)) path = none ∧
        ∃ children parent, openNode (some schema) w (structuralPath path) = .ok (children, parent) ∧
          List.Forall₂ (Follows (some schema) v path parent) children (ofNode node)) := by
  have hlookup : schema.nodeAt (structuralPath path) = .ok node :=
    Schema.nodeFrom_structuralPath_eq_ok.2 hdescend
  have hvalue : valuePath (structuralPath path) = path := valuePath_structuralPath path
  rw [keys_ofNode]
  cases hobjection : objection? w (Members.keys (SchemaNode.properties node)) path with
  | some fault =>
    have hlist := Child.list_eq_error hlookup (hvalue.symm ▸ hobjection)
    refine .inl ⟨fault, rfl, ?_⟩
    rw [openNode, hlist]
  | none =>
    have hlist := Child.list_eq_ok hlookup (hvalue.symm ▸ hobjection)
    refine .inr ⟨rfl, (SchemaNode.properties node).map (Child.ofProperty (structuralPath path)),
      some node, ?_, ?_⟩
    · rw [openNode, hlist]
      simp only [hlookup]
    · rw [ofNode_eq, List.forall₂_map_left_iff, List.forall₂_map_right_iff, List.forall₂_same]
      exact fun entry hentry => follows_ofProperty hnode hdescend hentry

theorem openNode_free (hmembers : (Value.obj members).Ordered)
    (hnode : v.get? path = some (.obj members)) :
    objection? v (keys (ofMembers members)) path = none ∧
      ∃ children parent, openNode none v path = .ok (children, parent) ∧
        List.Forall₂ (Follows none v path parent) children (ofMembers members) := by
  have hlist : Child.list v none path = .ok (members.map (Child.ofMember path)) := by
    rw [Child.list, Child.listBare, hnode]
  refine ⟨?_, members.map (Child.ofMember path), none, ?_, ?_⟩
  · rw [objection?_eq, hnode]
    exact objectionTo?_eq_none_iff.2 (admits_ofMembers members)
  · rw [openNode, hlist]
  · rw [ofMembers_eq, List.forall₂_map_left_iff, List.forall₂_map_right_iff, List.forall₂_same]
    exact fun entry hentry => follows_ofMember hmembers hnode hentry

/-- A node is opened by listing its children, unless there is an objection to what it holds. -/
theorem openNode_cases (hv : v.Ordered) (hschema : ∀ s, schema = some s → s.root.Ordered)
    (h : Describes schema v path structural branches) (hfree : schema = none → w = v) :
    (∃ fault, objection? w (keys branches) path = some fault ∧
        openNode schema w structural = .error ⟨.listing, fault⟩) ∨
      (objection? w (keys branches) path = none ∧
        ∃ children parent, openNode schema w structural = .ok (children, parent) ∧
          List.Forall₂ (Follows schema v path parent) children branches) := by
  cases schema with
  | none =>
    obtain ⟨rfl, members, hmembers, rfl⟩ := h
    obtain rfl := hfree rfl
    exact .inr (openNode_free (hv.of_get? hmembers) hmembers)
  | some schema =>
    obtain ⟨rfl, node, hnode, rfl⟩ := h
    exact openNode_governed (SchemaNode.ordered_of_descend? (hschema schema rfl) hnode) hnode w

/-! ### The walk makes the plan -/

/-- The fault came up when children were listed, and is a structural mismatch. -/
def Fault.IsMismatch (fault : Fault) : Prop :=
  fault.stage = .listing ∧ ∃ path key how, fault.error = .structuralMismatch path key how

theorem isMismatch_of_objection? {declared : List String} {fault : FieldError}
    (h : objection? v declared path = some fault) : Fault.IsMismatch ⟨.listing, fault⟩ :=
  ⟨rfl, exists_mismatch_of_objectionTo? h⟩

/-- Without a schema nothing is created, and the value on the desk is the value as it was given. -/
def Keeps (frame : Frame) (schema : Option Schema) (v w : Value) : Prop :=
  schema = none → frame.builds = false ∧ w = v

variable {frame : Frame} {desk : Desk} {key : String} {required : Bool} {parent : Option Value}
  {child : Child}

theorem Keeps.of_prepare {container : Bool} {made : Except FieldError Bool} {x : Value}
    (h : Keeps frame schema v w) (hprepare : prepare frame w path container = (x, made)) :
    Keeps frame schema v x := by
  intro hfree
  obtain ⟨hbuilds, rfl⟩ := h hfree
  rw [prepare_of_not_builds hbuilds] at hprepare
  exact ⟨hbuilds, (Prod.mk.inj hprepare).1.symm⟩

theorem Keeps.of_branchStretch (h : Keeps frame schema v desk.value) (outline : Outline)
    (path : KeyPath) (key : String) (required : Bool) :
    Keeps frame schema v
      (branchStretch frame (path ++ [key]) key required outline desk).desk.value := by
  intro hfree
  obtain ⟨hbuilds, hvalue⟩ := h hfree
  have hsame := value_branchStretch_of_not_builds hbuilds outline (path ++ [key]) key required desk
  exact ⟨hbuilds, hsame.trans hvalue⟩

theorem enter_of_prepare {made : Bool} {classification : Option Classification}
    (hprepare : prepare frame desk.value child.path child.isContainer = (w, .ok made))
    (hclassified : classified parent child = .ok classification) :
    enter frame parent child desk =
      .row classification (desk.findings.take (Dotted.encode child.path)).1
        ⟨w, (desk.findings.take (Dotted.encode child.path)).2⟩ := by
  rw [enter, hprepare]
  simp only [hclassified]

mutual

/-- The walk of one child comes to the stretch of its branch, and goes on with the other children
from what the stretch leaves. -/
theorem visit_branch (hv : v.Ordered) (hschema : ∀ s, schema = some s → s.root.Ordered) :
    (outline : Outline) → (path : KeyPath) → (desk : Desk) → {parent : Option Value} →
    {child : Child} → {key : String} → {required : Bool} →
    Follows schema v path parent child (key, required, outline) →
    frame.Ready desk.value path → Keeps frame schema v desk.value →
    let drawn := branchStretch frame (path ++ [key]) key required outline desk
    ∃ faults : List Fault, (∀ fault ∈ faults, fault.IsMismatch) ∧ ∀ rest leg fault?,
      Visit frame schema (.children parent rest) drawn.desk leg fault? →
      Visit frame schema (.children parent (child :: rest)) desk
        ⟨drawn.rows ++ leg.rows, drawn.mismatches ++ leg.mismatches, faults ++ leg.faults, leg.desk⟩
        fault?
  | .leaf kind, path, desk, parent, child, key, required, hfollows, hready, _ => by
    obtain ⟨own, container, structural, ownPath, node⟩ := child
    obtain ⟨hown, hpath, hleaf, ⟨classification, hclassified, hrequired, hkind⟩, -⟩ := hfollows
    obtain rfl : own = key := hown
    obtain rfl : ownPath = path ++ [own] := hpath
    obtain rfl : container = false := hleaf
    obtain ⟨w, made, hprepare, -⟩ := prepare_of_ready hready false own
    have henter := enter_of_prepare hprepare hclassified
    refine ⟨[], fun _ h => absurd h List.not_mem_nil, fun rest leg fault? hrest => ?_⟩
    rw [branchStretch_leaf hprepare] at hrest ⊢
    have hrow := Visit.leaf henter rfl hrest
    rw [leafRowOf, hrequired, hkind kind rfl] at hrow
    exact hrow
  | .group inside, path, desk, parent, child, key, required, hfollows, hready, hkeeps => by
    obtain ⟨own, container, structural, ownPath, node⟩ := child
    obtain ⟨hown, hpath, hgroup, ⟨classification, hclassified, hrequired, -⟩, hbelow⟩ := hfollows
    obtain rfl : own = key := hown
    obtain rfl : ownPath = path ++ [own] := hpath
    obtain rfl : container = true := hgroup
    obtain ⟨w, made, hprepare, hshown⟩ := prepare_of_ready hready true own
    have henter := enter_of_prepare hprepare hclassified
    have hdescribes := hbelow inside rfl
    have hstays := hkeeps.of_prepare hprepare
    have hobjection := objection?_of_shown hshown (keys inside)
    rcases openNode_cases hv hschema hdescribes fun hfree => (hstays hfree).2 with
      ⟨fault, hfault, hopen⟩ | ⟨hnone, children, inner, hopen, hchildren⟩
    · refine ⟨[⟨.listing, fault⟩], ?_, fun rest leg fault? hrest => ?_⟩
      · simp only [List.mem_singleton, forall_eq]
        exact isMismatch_of_objection? hfault
      · rw [branchStretch_group_of_fault hprepare hfault] at hrest ⊢
        have hrow := Visit.group henter rfl (.refused hopen) hrest
        rw [groupRowOf, hrequired] at hrow
        exact hrow
    · have hadmits := objectionTo?_eq_none_iff.1 (hobjection.symm.trans hnone)
      obtain ⟨faults, hfaults, hvisit⟩ := visit_branches hv hschema inside (path ++ [own])
        ⟨w, (desk.findings.take (Dotted.encode (path ++ [own]))).2⟩ hchildren
        (ready_of_shown hshown hadmits) hstays
      refine ⟨faults, hfaults, fun rest leg fault? hrest => ?_⟩
      rw [branchStretch_group_of_admits hprepare hnone] at hrest ⊢
      have hrow := Visit.group henter rfl (.opened hopen hvisit) hrest
      rw [groupRowOf, hrequired, Option.map_none, Option.toList_none, List.append_nil] at hrow
      exact hrow

theorem visit_branches (hv : v.Ordered) (hschema : ∀ s, schema = some s → s.root.Ordered) :
    (branches : List Branch) → (path : KeyPath) → (desk : Desk) →
    {parent : Option Value} → {children : List Child} →
    List.Forall₂ (Follows schema v path parent) children branches →
    frame.Ready desk.value path → Keeps frame schema v desk.value →
    let drawn := stretch frame path branches desk
    ∃ faults : List Fault, (∀ fault ∈ faults, fault.IsMismatch) ∧
      Visit frame schema (.children parent children) desk
        ⟨drawn.rows, drawn.mismatches, faults, drawn.desk⟩ none
  | [], path, desk, parent, children, hfollows, _, _ => by
    obtain rfl := List.forall₂_nil_right_iff.1 hfollows
    exact ⟨[], fun _ h => absurd h List.not_mem_nil, .done⟩
  | (key, required, outline) :: rest, path, desk, parent, children, hfollows, hready, hkeeps => by
    obtain ⟨child, others, hchild, hothers, rfl⟩ := List.forall₂_cons_right_iff.1 hfollows
    obtain ⟨hstill, -⟩ := @ready_branchStretch frame path key required desk hready outline
    obtain ⟨faults, hfaults, hfirst⟩ := visit_branch hv hschema outline path desk hchild hready
      hkeeps
    obtain ⟨more, hmore, hnext⟩ := visit_branches hv hschema rest path _ hothers hstill
      (hkeeps.of_branchStretch outline path key required)
    refine ⟨faults ++ more, fun fault hfault => ?_, ?_⟩
    · rcases List.mem_append.1 hfault with hfault | hfault
      · exact hfaults fault hfault
      · exact hmore fault hfault
    · exact hfirst others _ none hnext

end

theorem describes_root (v : Value) (schema : Option Schema) :
    (schema = none ∧ v.isContainer = false ∧ Outline.of v schema = .leaf .text) ∨
      (schema = none → v.isContainer = true) ∧
        ∃ branches, Outline.of v schema = .group branches ∧ Describes schema v [] [] branches := by
  cases schema with
  | none =>
    cases v with
    | obj members => exact .inr ⟨fun _ => rfl, ofMembers members, rfl, rfl, members, rfl, rfl⟩
    | _ => exact .inl ⟨rfl, rfl, rfl⟩
  | some schema =>
    exact .inr ⟨fun h => absurd h (Option.some_ne_none schema),
      ofNode schema.root, rfl, rfl, schema.root, rfl, rfl⟩

theorem keeps_prepare_root {made : Except FieldError Bool} {mode : Mode} {settings : Settings}
    (hprepare : prepare ⟨mode, schema.isSome, settings⟩ v [] true = (w, made)) :
    Keeps ⟨mode, schema.isSome, settings⟩ schema v w := by
  refine Keeps.of_prepare (fun hfree => ⟨?_, rfl⟩) hprepare
  rw [hfree]
  exact Bool.and_false _

/-- A plan is what the walk makes, and nothing comes up in the walk but structural mismatches when
children are listed. -/
theorem walk_make (hv : v.Ordered) (hschema : ∀ s, schema = some s → s.root.Ordered) (mode : Mode)
    (findings : List Finding) (settings : Settings) :
    ∃ faults, Walk v schema mode findings settings (make v schema mode findings settings) faults ∧
      ∀ fault ∈ faults, fault.IsMismatch := by
  rw [make]
  rcases describes_root v schema with ⟨hfree, hbare, houtline⟩ | ⟨hsome, branches, houtline, hroot⟩
  · rw [houtline]
    exact ⟨[], .bare hfree hbare, fun _ h => absurd h List.not_mem_nil⟩
  · obtain ⟨w, made, hprepare, hshown⟩ := prepare_root_shown ⟨mode, schema.isSome, settings⟩ v
    have hkeeps := keeps_prepare_root hprepare
    rw [houtline]
    rcases openNode_cases hv hschema hroot fun hfree => (hkeeps hfree).2 with
      ⟨fault, hfault, hopen⟩ | ⟨hnone, children, parent, hopen, hchildren⟩
    · refine ⟨[⟨.listing, fault⟩], ?_, ?_⟩
      · rw [@rootStretch_group_of_fault _ _ _ ⟨v, .ofFindings findings⟩ _ _ hprepare hfault]
        exact .made hsome hprepare (.refused hopen)
      · simp only [List.mem_singleton, forall_eq]
        exact isMismatch_of_objection? hfault
    · have hadmits := objectionTo?_eq_none_iff.1
        ((objection?_of_shown hshown (keys branches)).symm.trans hnone)
      obtain ⟨faults, hfaults, hvisit⟩ := visit_branches hv hschema branches []
        ⟨w, .ofFindings findings⟩ hchildren (ready_of_shown hshown hadmits) hkeeps
      refine ⟨faults, ?_, hfaults⟩
      have hwalk := Walk.made hsome hprepare (.opened hopen hvisit)
      rw [Option.map_none, Option.toList_none, List.append_nil] at hwalk
      rw [@rootStretch_group_of_admits _ _ _ ⟨v, .ofFindings findings⟩ _ hprepare hnone]
      exact hwalk

end Agreement

end Plan

end FormTree
