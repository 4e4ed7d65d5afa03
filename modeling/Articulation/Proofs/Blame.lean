import Articulation.Proofs.Classification
import Articulation.Proofs.Order
/-!
Whom an error blames. Every reader passes the name of its element on to whatever goes wrong inside,
and the stages after the reading blame a link, so an error without a subject is one of few, and
every other one names an element of the document, in its message too.
-/
set_option autoImplicit false

namespace Articulation

open Xml (Element)

def Mentions (message name : String) : Prop := name.toList <:+: message.toList

namespace Mentions

variable {a b name : String}

theorem left (h : Mentions a name) : Mentions (a ++ b) name := by
  unfold Mentions at *
  rw [String.toList_append]
  exact h.trans (List.prefix_append _ _).isInfix

theorem right (h : Mentions b name) : Mentions (a ++ b) name := by
  unfold Mentions at *
  rw [String.toList_append]
  exact h.trans (List.suffix_append _ _).isInfix

theorem itself (name : String) : Mentions (toString name) name := List.infix_rfl

theorem subject (name : String) : Mentions (toString (nameText (some name))) name := List.infix_rfl

theorem first (name : String) (others : List String) :
    Mentions (toString (commaSeparated (name :: others))) name := by
  have chars : (commaSeparated (name :: others)).toList =
      List.intercalate ", ".toList (name.toList :: others.map String.toList) :=
    String.toList_intercalate
  unfold Mentions
  rw [show toString (commaSeparated (name :: others)) = commaSeparated (name :: others) from rfl,
    chars]
  cases others with
  | nil => simp
  | cons other others =>
    rw [List.map_cons, List.intercalate_cons_cons, List.append_assoc]
    exact (List.prefix_append _ _).isInfix

end Mentions

theorem DescriptionError.mentions_subject {e : DescriptionError} {name : String}
    (h : e.subject = some name) : Mentions e.message name := by
  unfold subject at h
  unfold message
  cases e <;> dsimp only at h ⊢ <;> cases h <;>
    grind [← Mentions.left, ← Mentions.right, Mentions.itself, Mentions.subject, Mentions.first]

def Failure.subject? : Failure → Option String
  | .description e => e.subject
  | .namelessAsset _ => none

/-- Whatever goes wrong is laid to that name. -/
def Blames {α : Type} (name : String) (x : Except DescriptionError α) : Prop :=
  ∀ e, x = .error e → e.subject = some name

def Misreads {α : Type} (name : String) (x : Except DescriptionError α) : Prop :=
  ∀ e, x = .error e → e.subject = some name ∧ e.kind = .malformedDescription

namespace Misreads

variable {α β : Type} {name : String}

theorem ok (a : α) : Misreads name (.ok a) := fun _ h => by contradiction

theorem error {e : DescriptionError} (subject : e.subject = some name)
    (kind : e.kind = .malformedDescription) :
    Misreads name (.error e : Except DescriptionError α) := by
  rintro _ ⟨⟩
  exact ⟨subject, kind⟩

theorem bind {x : Except DescriptionError α} {f : α → Except DescriptionError β}
    (hx : Misreads name x) (hf : ∀ a, Misreads name (f a)) : Misreads name (x >>= f) := by
  intro e h
  rcases bind_eq_error.1 h with failed | ⟨a, -, failed⟩
  · exact hx e failed
  · exact hf a e failed

theorem mapM {f : α → Except DescriptionError β} (hf : ∀ a, Misreads name (f a)) (o : Option α) :
    Misreads name (o.mapM f) := by
  cases o with
  | none => exact ok none
  | some a => exact bind (hf a) fun b => ok (some b)

end Misreads

variable {u : UpAxis} {name : String}

theorem misreads_readNumber (text : String) : Misreads name (readNumber text name) := by
  unfold readNumber
  split
  · exact .ok _
  · exact .error rfl rfl

theorem misreads_readVector (size : Nat) (text : String) :
    Misreads name (readVector size (some text) name) := by
  unfold readVector
  dsimp only
  split
  · exact .error rfl rfl
  · split
    · exact .ok _
    · exact .error rfl rfl

theorem misreads_readVec3 (text : String) : Misreads name (readVec3 text name) := by
  unfold readVec3
  split
  next e failed =>
    obtain ⟨subject, kind⟩ := misreads_readVector 3 text e failed
    exact .error subject kind
  next => exact .ok _

namespace JointRecord

theorem subject_complaint (r : JointRecord) (q : Requirement) :
    (r.complaint q).subject = some r.name := by
  cases q with
  | oneAxis =>
    rw [complaint]
    split <;> rfl
  | _ => rfl

theorem blames_joint (r : JointRecord) : Blames r.name r.joint := by
  rcases joint_outcome r with ⟨t, j, -, -, joint, -⟩ | ⟨q, -, joint⟩
  · rw [joint]
    intro e h
    contradiction
  · rw [joint]
    rintro e ⟨⟩
    exact r.subject_complaint q

theorem name_of_joint {r : JointRecord} {j : Joint} (h : r.joint = .ok j) : j.name = r.name := by
  rcases joint_outcome r with ⟨t, j', -, -, joint, resolved⟩ | ⟨q, -, joint⟩
  · rw [joint] at h
    cases h
    exact resolved.record.1
  · rw [joint] at h
    contradiction

end JointRecord

namespace Description

theorem misreads_required (e : Element) (key : String) : Misreads name (required e key name) := by
  unfold required
  split
  · exact .error rfl rfl
  · split
    · exact .error rfl rfl
    · exact .ok _

theorem misreads_colourOf (colour : Element) : Misreads name (colourOf colour name) := by
  refine .bind (misreads_required colour "rgba") fun text => ?_
  unfold readColour
  split
  next e failed =>
    obtain ⟨subject, kind⟩ := misreads_readVector 4 text e failed
    exact .error subject kind
  next =>
    split
    · exact .ok _
    · exact .error rfl rfl

theorem misreads_readPose (origin : Option Element) : Misreads name (readPose u name origin) := by
  cases origin with
  | none => exact .ok _
  | some e =>
    exact .bind (misreads_readVec3 _) fun xyz => .bind (misreads_readVec3 _) fun rpy => .ok _

theorem misreads_readMass (inertial : Element) : Misreads name (readMass name inertial) := by
  unfold readMass
  split
  · exact .error rfl rfl
  · refine .bind (misreads_required _ "value") fun text =>
      .bind (misreads_readNumber text) fun mass => ?_
    split
    · exact .error rfl rfl
    · exact .ok _

theorem misreads_readMesh (visual : Element) (link : Link) :
    Misreads link.name (readMesh u visual link) := by
  unfold readMesh
  split
  · exact .ok _
  · refine .bind (misreads_required _ "filename") fun reference => ?_
    split
    · exact .error rfl rfl
    · exact .bind (misreads_readPose _) fun pose => .ok _

theorem misreads_readSurface (materials : Roster Material) (visual : Element) :
    Misreads name (readSurface name materials visual) := by
  unfold readSurface
  split
  · exact .ok _
  · unfold readVisualMaterial
    extract_lets material
    split
    · exact .ok _
    · split
      · exact .ok _
      · exact .bind (misreads_colourOf _) fun colour => .ok _

theorem misreads_readVisual (materials : Roster Material) (visual : Element) (link : Link) :
    Misreads link.name (readVisual u materials visual link) :=
  .bind (misreads_readSurface materials visual) fun surface =>
    .bind (misreads_readMesh visual { link with materialName := surface.1 }) fun _ => .ok _

theorem misreads_readBody (inertial : Element) : Misreads name (readBody u name inertial) :=
  .bind (misreads_readMass inertial) fun _ => .bind (misreads_readPose _) fun _ => .ok _

theorem misreads_readReference (e : Element) (role : Role) :
    Misreads name (readReference e name role) := by
  unfold readReference
  split
  · exact .error rfl rfl
  · exact misreads_required _ "link"

theorem misreads_readLimit (e : Element) : Misreads name (readLimit name e) :=
  .bind (misreads_readNumber _) fun _ => .bind (misreads_readNumber _) fun _ =>
    .bind (.mapM (fun text => misreads_readNumber text) _) fun _ => .ok _

theorem misreads_checkReferences (links : Roster Link) (joints : Roster Joint) (j : Joint) :
    Misreads j.name (checkReferences links joints j) := by
  unfold checkReferences
  split
  · exact .error rfl rfl
  · split
    · exact .error rfl rfl
    · split
      · exact .error rfl rfl
      · exact .ok _

def Nameless (e : Element) : Prop :=
  ∀ name, e.get? "name" = some name → ∀ c ∈ name.toList, Text.isBlank c = true

/-- What is wrong with an element: it has no name, or it is blamed by its name. -/
inductive FaultOf (e : Element) : DescriptionError → Prop where
  | nameless (blank : Nameless e) : FaultOf e (.missingAttribute e.tag "name" none)
  | named {name : String} {error : DescriptionError} (bears : e.get? "name" = some name)
      (subject : error.subject = some name) : FaultOf e error

theorem isBlank_of_trim_isEmpty {cs : List Char} (h : (Text.trim cs).isEmpty = true) :
    ∀ c ∈ cs, Text.isBlank c = true := by
  unfold Text.trim Text.trimLeft at h
  rw [List.isEmpty_iff, List.reverse_eq_nil_iff, List.dropWhile_eq_nil_iff] at h
  -- what is left after the first blanks begins with a character that is none
  have left : cs.dropWhile Text.isBlank = [] := by
    by_contra rest
    have first := List.head_dropWhile_not Text.isBlank rest
    rw [h _ (List.mem_reverse.2 (List.head_mem rest))] at first
    contradiction
  exact List.dropWhile_eq_nil_iff.1 left

theorem nameless_of_required {e : Element} {error : DescriptionError}
    (h : required e "name" none = .error error) :
    Nameless e ∧ error = .missingAttribute e.tag "name" none := by
  unfold required at h
  split at h
  next absent =>
    cases h
    exact ⟨fun name bears => by simp [absent] at bears, rfl⟩
  next value given =>
    split at h
    next blank =>
      cases h
      refine ⟨fun name bears => ?_, rfl⟩
      obtain rfl : value = name := Option.some.inj (given.symm.trans bears)
      exact isBlank_of_trim_isEmpty blank
    next => contradiction

theorem faultOf_reader {α : Type} {e : Element} {f : String → Except DescriptionError α}
    (hf : ∀ name, Misreads name (f name)) {error : DescriptionError}
    (h : (required e "name" none >>= f) = .error error) :
    FaultOf e error ∧ error.kind = .malformedDescription := by
  rcases bind_eq_error.1 h with failed | ⟨name, given, failed⟩
  · obtain ⟨blank, rfl⟩ := nameless_of_required failed
    exact ⟨.nameless blank, rfl⟩
  · obtain ⟨subject, kind⟩ := hf name error failed
    exact ⟨.named (get?_of_required given) subject, kind⟩

variable {e : Element} {error : DescriptionError}

theorem faultOf_readMaterial (h : (readMaterial e).result = .error error) :
    FaultOf e error ∧ error.kind = .malformedDescription := by
  unfold readMaterial at h
  rw [Traced.result_bind] at h
  refine faultOf_reader (fun name => ?_) h
  split
  · exact .ok _
  · rw [Traced.result_bind]
    exact .bind (misreads_colourOf _) fun colour => .ok _

theorem faultOf_readLink {materials : Roster Material}
    (h : readLink u materials e = .error error) :
    FaultOf e error ∧ error.kind = .malformedDescription := by
  refine faultOf_reader (fun name => ?_) h
  split
  · exact .ok _
  · intro error' h
    rcases bind_eq_error.1 h with failed | ⟨body, read, failed⟩
    · exact misreads_readBody _ error' failed
    · obtain ⟨mass, pose, rfl⟩ := readBody_ok read
      split at failed
      · contradiction
      · exact misreads_readVisual materials _ _ error' failed

theorem faultOf_readJointRecord (h : readJointRecord u e = .error error) :
    FaultOf e error ∧ error.kind = .malformedDescription := by
  refine faultOf_reader (fun name => ?_) h
  refine .bind (misreads_readReference e .parent) fun parent =>
    .bind (misreads_readReference e .child) fun child => ?_
  split
  · exact .error rfl rfl
  · exact .bind (misreads_readPose _) fun origin =>
      .bind (.mapM (fun axis => .bind (misreads_readVec3 _) fun row => .ok row.toList) _)
        fun axis => .bind (.mapM (fun limit => misreads_readLimit limit) _) fun limit => .ok _

theorem name_of_readJointRecord {r : JointRecord} (h : readJointRecord u e = .ok r) :
    e.get? "name" = some r.name := by
  obtain ⟨name, given, h⟩ := bind_eq_ok.1 h
  obtain ⟨parent, -, h⟩ := bind_eq_ok.1 h
  obtain ⟨child, -, h⟩ := bind_eq_ok.1 h
  split at h
  · contradiction
  · obtain ⟨origin, -, h⟩ := bind_eq_ok.1 h
    obtain ⟨axis, -, h⟩ := bind_eq_ok.1 h
    obtain ⟨limit, -, h⟩ := bind_eq_ok.1 h
    cases h
    exact get?_of_required given

theorem faultOf_readMaterials {materials : Roster Material} (es : List Element)
    (h : (readMaterials materials es).result = .error error) :
    (∃ e ∈ es, FaultOf e error) ∧ error.kind = .malformedDescription := by
  induction es generalizing materials with
  | nil => contradiction
  | cons e es ih =>
    rw [readMaterials, Traced.result_bind] at h
    rcases bind_eq_error.1 h with here | ⟨m, -, later⟩
    · obtain ⟨fault, kind⟩ := faultOf_readMaterial here
      exact ⟨⟨e, List.mem_cons_self, fault⟩, kind⟩
    · obtain ⟨⟨e', he', fault⟩, kind⟩ := ih later
      exact ⟨⟨e', List.mem_cons_of_mem e he', fault⟩, kind⟩

theorem faultOf_readLinks {links : Roster Link} {materials : Roster Material} (es : List Element)
    (h : readLinks u links materials es = .error error) :
    (∃ e ∈ es, FaultOf e error) ∧ error.kind = .malformedDescription := by
  induction es generalizing links materials with
  | nil => contradiction
  | cons e es ih =>
    rcases bind_eq_error.1 h with here | ⟨⟨l, ms⟩, read, later⟩
    · obtain ⟨fault, kind⟩ := faultOf_readLink here
      exact ⟨⟨e, List.mem_cons_self, fault⟩, kind⟩
    · simp only at later
      split at later
      next =>
        cases later
        exact ⟨⟨e, List.mem_cons_self, .named (readLink_ok read).1 rfl⟩, rfl⟩
      next =>
        obtain ⟨⟨e', he', fault⟩, kind⟩ := ih later
        exact ⟨⟨e', List.mem_cons_of_mem e he', fault⟩, kind⟩

theorem faultOf_readJoints {links : Roster Link} {joints : Roster Joint} (es : List Element)
    (h : (readJoints u links joints es).result = .error error) : ∃ e ∈ es, FaultOf e error := by
  induction es generalizing joints with
  | nil => contradiction
  | cons e es ih =>
    simp only [readJoints, Traced.result_bind, result_classifyJoint] at h
    rcases bind_eq_error.1 h with here | ⟨r, read, h⟩
    · exact ⟨e, List.mem_cons_self, (faultOf_readJointRecord here).1⟩
    · have bears := name_of_readJointRecord read
      rcases bind_eq_error.1 h with here | ⟨j, joint, h⟩
      · exact ⟨e, List.mem_cons_self, .named bears (r.blames_joint error here)⟩
      · -- from here on the joint is to blame, which is called as its element is
        rw [← JointRecord.name_of_joint joint] at bears
        split at h
        next =>
          cases h
          exact ⟨e, List.mem_cons_self, .named bears rfl⟩
        next =>
          rw [Traced.result_bind] at h
          rcases bind_eq_error.1 h with here | ⟨⟨⟩, -, later⟩
          · have subject := (misreads_checkReferences _ _ j error here).1
            exact ⟨e, List.mem_cons_self, .named bears subject⟩
          · obtain ⟨e', he', fault⟩ := ih later
            exact ⟨e', List.mem_cons_of_mem e he', fault⟩

theorem faultOf_ofElement {root : Element} (h : (ofElement u root).result = .error error) :
    (root.tag ≠ "robot" ∧ error = .notARobot root.tag) ∨
      ∃ tag ∈ recordTags, ∃ part ∈ root.childrenNamed tag, FaultOf part error := by
  unfold ofElement at h
  split at h
  next other =>
    cases h
    exact .inl ⟨other, rfl⟩
  next =>
    simp only [Traced.result_bind] at h
    rcases bind_eq_error.1 h with materials | ⟨ms, -, h⟩
    · exact .inr ⟨"material", by decide, (faultOf_readMaterials _ materials).1⟩
    · rcases bind_eq_error.1 h with links | ⟨⟨ls, ms'⟩, -, h⟩
      · exact .inr ⟨"link", by decide, (faultOf_readLinks _ links).1⟩
      · rcases bind_eq_error.1 h with joints | ⟨js, -, h⟩
        · exact .inr ⟨"joint", by decide, faultOf_readJoints _ joints⟩
        · contradiction

/-- Why an error has no subject. -/
inductive Anonymous (u : UpAxis) (text : String) : DescriptionError → Prop where
  | badDocument {cause : Xml.SyntaxError} (read : Xml.read text = .error cause) :
      Anonymous u text (.badDocument cause)
  | notARobot {root : Element} (read : Xml.read text = .ok root) (other : root.tag ≠ "robot") :
      Anonymous u text (.notARobot root.tag)
  | nameless {root part : Element} {tag : String} (read : Xml.read text = .ok root)
      (kind : tag ∈ recordTags) (listed : part ∈ root.childrenNamed tag) (blank : Nameless part) :
      Anonymous u text (.missingAttribute tag "name" none)
  | allClaimed {d : Description} (accepted : (ofText u text).result = .ok d)
      (none : d.unclaimedLinks = []) : Anonymous u text .noRoot

theorem Anonymous.no_subject {u : UpAxis} {text : String} {e : DescriptionError}
    (h : Anonymous u text e) : e.subject = none := by
  cases h <;> rfl

def Bears (text name : String) : Prop :=
  ∃ root, Xml.read text = .ok root ∧
    ∃ tag ∈ recordTags, ∃ part ∈ root.childrenNamed tag, part.get? "name" = some name

/-- Whether an error blames nobody for a reason or else something in the text. -/
def Attributed (u : UpAxis) (text : String) (e : DescriptionError) : Prop :=
  Anonymous u text e ∨ ∃ name, e.subject = some name ∧ Bears text name

variable {text : String}

theorem attributed_of_ofText (h : (ofText u text).result = .error error) :
    Attributed u text error := by
  unfold ofText at h
  split at h
  next cause read =>
    cases h
    exact .inl (.badDocument read)
  next root read =>
    rcases faultOf_ofElement h with ⟨other, rfl⟩ | ⟨tag, kind, part, listed, fault⟩
    · exact .inl (.notARobot read other)
    · cases fault with
      | nameless blank =>
        rw [Element.tag_of_mem_childrenNamed listed]
        exact .inl (.nameless read kind listed blank)
      | named bears subject =>
        exact .inr ⟨_, subject, root, read, tag, kind, part, listed, bears⟩

theorem bears_of_mem_links {d : Description} (accepted : (ofText u text).result = .ok d)
    {name : String} (listed : name ∈ d.links.names) : Bears text name := by
  obtain ⟨root, read, h⟩ := ofText_ok accepted
  rw [← linkNames_eq h] at listed
  obtain ⟨part, hpart, bears⟩ := List.mem_filterMap.1 listed
  exact ⟨root, read, "link", by decide, part, hpart, bears⟩

theorem attributed_of_linkTree {d : Description} (accepted : (ofText u text).result = .ok d)
    {robotName : String} (h : (d.linkTree robotName).result = .error error) :
    Attributed u text error := by
  have refusal := ((consistent_of_ofText accepted).linkTree_error robotName error).1 h
  cases refusal with
  | noRoot none => exact .inl (.allClaimed accepted none)
  | @severalRoots first second others several =>
    have listed : first ∈ d.unclaimedLinks := by simp [several]
    exact .inr ⟨first, rfl, bears_of_mem_links accepted (List.mem_of_mem_filter listed)⟩
  | @unreachable r first others root lost =>
    have listed := List.mem_of_mem_filter (lost ▸ List.mem_cons_self (a := first))
    exact .inr ⟨first, rfl, bears_of_mem_links accepted listed⟩

end Description

namespace Compiler

open Description (Anonymous Attributed Bears)

variable {c : Compiler} {text : String} {e : DescriptionError}

theorem attributed_of_compile (h : (c.compile text).result = .error (.description e)) :
    Attributed c.config.upAxis text e := by
  rw [result_compile] at h
  rcases bind_eq_error.1 h with h | ⟨d, accepted, h⟩
  · obtain ⟨e', failed, same⟩ := mapError_eq_error.1 h
    cases same
    exact Description.attributed_of_ofText failed
  · have accepted := mapError_eq_ok.1 accepted
    rcases bind_eq_error.1 h with h | ⟨t, built, h⟩
    · obtain ⟨e', failed, same⟩ := mapError_eq_error.1 h
      cases same
      exact Description.attributed_of_linkTree accepted failed
    · have hd := Description.consistent_of_ofText accepted
      have built := mapError_eq_ok.1 built
      obtain ⟨e', same, n, hn, subject⟩ :=
        finish_error (wellFormed_trim (hd.wellFormed_linkTree built)) h
      cases same
      have drawn : (c.trim t).DrawnFrom d := drawnFrom_trim (hd.drawnFrom_linkTree built)
      have listed : n.name ∈ d.links.names := by
        rw [hd.names_links]
        exact List.mem_map_of_mem (drawn.links n hn)
      exact .inr ⟨n.name, subject, Description.bears_of_mem_links accepted listed⟩

/-- A compilation that fails blames nobody only if there is nobody to blame. Whoever is blamed is a
link, a joint or a material of the text, and the message says so. -/
theorem compile_blames (c : Compiler) (text : String) (e : DescriptionError)
    (h : (c.compile text).result = .error (.description e)) :
    (e.subject = none ↔ Anonymous c.config.upAxis text e) ∧
      ∀ name, e.subject = some name → Mentions e.message name ∧ Bears text name := by
  have attributed := attributed_of_compile h
  refine ⟨⟨fun none => ?_, Anonymous.no_subject⟩, fun name subject => ?_⟩
  · rcases attributed with anonymous | ⟨name, subject, -⟩
    · exact anonymous
    · rw [none] at subject
      contradiction
  · rcases attributed with anonymous | ⟨name', subject', bears⟩
    · rw [anonymous.no_subject] at subject
      contradiction
    · obtain rfl : name' = name := Option.some.inj (subject'.symm.trans subject)
      exact ⟨e.mentions_subject subject, bears⟩

def meshless : Compiler := ⟨.standard, none, some fun _ => none⟩

theorem compile_blames_meshless : ∃ e,
    (meshless.compile Description.cellText).result = .error (.description e) ∧
      e.subject = some "base" ∧ Mentions e.message "base" ∧
      Bears Description.cellText "base" := by
  have outcome : ((meshless.compile Description.cellText).result.map fun _ => ()).mapError
      Failure.subject? = .error (some "base") := by
    rw [compile_of_read Description.read_cellText]
    decide +kernel
  cases h : (meshless.compile Description.cellText).result with
  | ok made =>
    rw [h] at outcome
    contradiction
  | error f =>
    obtain ⟨e, rfl⟩ := compile_error h
    rw [h] at outcome
    have subject : e.subject = some "base" := Except.error.inj outcome
    exact ⟨e, rfl, subject, (compile_blames meshless _ e h).2 "base" subject⟩

end Compiler

end Articulation
