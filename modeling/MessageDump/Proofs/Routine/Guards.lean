import MessageDump.Proofs.Generation.Acceptance
import MessageDump.Proofs.Routine.Statements
/-! # Guards, types and the name of the bound value

Whether the member of a field is an option is decided when its type is found.  A scalar
says so beside the name of its type and a message in it, while the routines look for a
guard at the type and at the kind.  The two agree on all kinds that the routines handle
(`Field.isGuarded_iff`), though not on all that have a type: the name of an enum may
look like an option.

What a routine writes for a value is told for an expression that reaches it, and from
nothing else that leads to the member (`Json.handling`, `Literal.handling`).  With the
expression for the bound name this is what stands behind a guard and in an arm, with
the one for the member it is what stands without a guard (`Message.guards_follow_types`).
-/
namespace MessageDump

open Source (Context Operand Step)

/-- The member is declared as an option. -/
def FieldType.IsOption (type : FieldType) : Prop :=
  ∃ inner, type.declared = "Option<" ++ inner ++ ">"

/-- The steps for a field stand behind a guard exactly if its type is an option.  If they
do, they handle the value by the bound name, and by the member itself otherwise. -/
structure Field.FollowsType (ctx : Context) (field : Field) (type : FieldType)
    (handling : Handling) (steps : List Step) : Prop where
  guarded_iff : (∃ inside, steps =
    .enter ("if let Some(" ++ ctx.locals.value ++ ") = &" ++
      (ctx.locals.receiver ++ "." ++ Name.escaped field.name) ++ " \x7b") ::
      (inside ++ [.leave "\x7d"])) ↔ type.IsOption
  behind_guard : ∀ inside, steps =
    .enter ("if let Some(" ++ ctx.locals.value ++ ") = &" ++
      (ctx.locals.receiver ++ "." ++ Name.escaped field.name) ++ " \x7b") ::
      (inside ++ [.leave "\x7d"]) →
    handling.alone field (handling.bound field.kind) inside
  bare : ¬ type.IsOption →
    handling.alone field (ctx.locals.receiver ++ "." ++ Name.escaped field.name) steps

/-! ## Options -/

section
variable {ctx : Context} {message : Message} {field : Field} {type : FieldType}

namespace FieldType

theorem IsOption.head? (h : type.IsOption) : type.declared.toList.head? = some 'O' := by
  obtain ⟨inner, hdeclared⟩ := h
  rw [hdeclared]
  simp

theorem isOption_of_nullable (h : type.nullable = true) : type.IsOption :=
  ⟨type.name, by rw [declared, if_pos h]⟩

theorem not_isOption_ofScalar (type : Scalar) : ¬ IsOption ⟨ofScalar type, false⟩ := by
  intro hoption
  have hhead := hoption.head?
  cases type <;> exact absurd hhead (by decide)

theorem isOption_of_message (type : String) :
    IsOption ⟨"Option<Box<" ++ type ++ ">>", false⟩ :=
  ⟨"Box<" ++ type ++ ">", by
    apply String.toList_inj.mp
    simp [declared]⟩

end FieldType

/-- For a kind that the routines handle, the guard goes by the declared type. -/
theorem Field.isGuarded_iff (hsupported : field.kind.Supported)
    (htype : FieldType.ofKind? field.optional field.kind = some type) :
    field.isGuarded type = true ↔ type.IsOption := by
  cases hkind : field.kind with
  | scalar scalar =>
    have hscalar : type = ⟨FieldType.ofScalar scalar, field.optional⟩ := by
      rw [hkind] at hsupported htype
      cases scalar with
      | bytes =>
        obtain ⟨hbytes⟩ := hsupported
        exact absurd rfl hbytes
      | _ => exact (Option.some.inj htype).symm
    rw [isGuarded, hkind, Bool.or_false, hscalar]
    cases hoptional : field.optional with
    | true => exact iff_of_true rfl (FieldType.isOption_of_nullable rfl)
    | false => exact iff_of_false Bool.false_ne_true (FieldType.not_isOption_ofScalar scalar)
  | message name =>
    rw [hkind] at htype
    obtain rfl := Option.some.inj htype
    rw [isGuarded, hkind, Bool.or_true]
    exact iff_of_true rfl (FieldType.isOption_of_message name)
  | _ =>
    rw [hkind] at hsupported
    cases hsupported

/-- The name of an enum may look like an option, and nothing guards it then. -/
example : (Field.ofName "mode" (.enum "Option<Mode>")).isGuarded ⟨"Option<Mode>", false⟩ = false ∧
    FieldType.IsOption ⟨"Option<Mode>", false⟩ := ⟨rfl, "Mode", by decide⟩

/-- The block of a field follows its type if the guard does and if what is inside handles
the value by the expression for it. -/
theorem Field.followsType {handling : Handling} {inside : List Step}
    (hguard : field.isGuarded type = true ↔ type.IsOption)
    (hinside : handling.alone field
      (if field.isGuarded type then handling.bound field.kind else field.place ctx) inside)
    (hbare : ∀ opening rest, inside ≠ .enter opening :: rest) :
    field.FollowsType ctx type handling
      ((Block.member field (field.isGuarded type) inside).steps ctx message) := by
  rw [Block.steps]
  cases hguarded : field.isGuarded type with
  | true =>
    rw [hguarded, if_pos rfl] at hinside
    rw [hguarded] at hguard
    refine ⟨iff_of_true ⟨inside, rfl⟩ (hguard.mp rfl), fun other hblock => ?_, fun hnot =>
      absurd (hguard.mp rfl) hnot⟩
    obtain rfl := List.append_cancel_right (List.cons.inj hblock).2
    exact hinside
  | false =>
    rw [hguarded, if_neg Bool.false_ne_true] at hinside
    have hnot : ¬ type.IsOption := fun hoption => Bool.false_ne_true (hguarded ▸ hguard.mpr hoption)
    exact ⟨iff_of_false (fun ⟨other, heq⟩ => hbare _ _ heq) hnot,
      fun other heq => absurd heq (hbare _ _), fun _ => hinside⟩

/-! ## The two routines -/

theorem Json.IsNode.supported {settings : Settings} {value node : String} {kind : Kind}
    (h : IsNode settings value kind node) : kind.Supported := by
  cases h with
  | bool => exact .scalar nofun
  | number htype | decimal htype =>
    refine .scalar ?_
    rintro rfl
    simp at htype
  | text => exact .scalar nofun
  | nested type => exact .message type

theorem Json.followsType_of_memberBlock_eq_ok {block : Block}
    (h : memberBlock ctx message field = .ok block) :
    ∃ type, FieldType.resolve message field = .ok type ∧
      field.FollowsType ctx type (handling ctx) (block.steps ctx message) := by
  obtain ⟨type, node, htype, hnode, rfl⟩ := memberBlock_eq_ok_iff.mp h
  obtain ⟨hweak, htype⟩ := fieldType_eq_ok_iff.mp htype
  have hnode := node_eq_ok_iff.mp hnode
  have hguard := Field.isGuarded_iff (isNode_of_node?_eq_some hnode).supported htype
  exact ⟨type, (FieldType.resolve_eq_ok_iff hweak).mpr htype,
    Field.followsType hguard (alone_of_node _ hnode) nofun⟩

theorem Literal.Shows.supported {settings : Settings} {out indent label wrapper value : String}
    {kind : Kind} {steps : List Step}
    (h : Shows settings out indent label wrapper kind value steps) : kind.Supported := by
  cases h with
  | scalar _ hbytes => exact .scalar hbytes
  | nested type => exact .message type

theorem Literal.followsType_of_memberBlock_eq_ok {block : Block}
    (h : memberBlock ctx message field = .ok block) :
    ∃ type, FieldType.resolve message field = .ok type ∧
      field.FollowsType ctx type (handling ctx) (block.steps ctx message) := by
  obtain ⟨made, type, hform, hresolve, rfl⟩ := memberBlock_eq_ok_iff.mp h
  obtain ⟨hweak, hmade⟩ := form_eq_ok_iff.mp hform
  have hshows := shows_lines ctx field.name "" (field.operand ctx (field.isGuarded type)) hmade
  have hguard := Field.isGuarded_iff hshows.supported
    ((FieldType.resolve_eq_ok_iff hweak).mp hresolve)
  refine ⟨type, hresolve, Field.followsType hguard ⟨_, rfl, ?_⟩ nofun⟩
  cases hguarded : field.isGuarded type <;> rw [hguarded] at hshows <;> exact hshows

end

/-- **Both routines look for a value where its type is an option**, and nowhere else.  The
block of a field is guarded in one of them exactly if it is in the other.  A value is
handled by the name that a guard or an arm binds to it, which the JSON routine
dereferences exactly for the kinds that are copied, or by the member itself where there is
no guard. -/
theorem Message.guards_follow_types (ctx : Context) (message : Message) :
    (∀ field json literal, Json.block ctx message (.member field) = .ok json →
      Literal.block ctx message (.member field) = .ok literal →
      ∃ type, FieldType.resolve message field = .ok type ∧
        field.FollowsType ctx type (Json.handling ctx) (json.steps ctx message) ∧
        field.FollowsType ctx type (Literal.handling ctx) (literal.steps ctx message)) ∧
    ∀ oneof json literal, Json.block ctx message (.choice oneof) = .ok json →
      Literal.block ctx message (.choice oneof) = .ok literal →
      (Entry.choice oneof).Emits ctx message (Json.handling ctx) (json.steps ctx message) ∧
      (Entry.choice oneof).Emits ctx message (Literal.handling ctx) (literal.steps ctx message) := by
  constructor
  · intro field json literal hjson hliteral
    obtain ⟨type, htype, hfollows⟩ := Json.followsType_of_memberBlock_eq_ok hjson
    obtain ⟨type', htype', hfollows'⟩ := Literal.followsType_of_memberBlock_eq_ok hliteral
    obtain rfl := Except.ok.inj (htype.symm.trans htype')
    exact ⟨type, htype, hfollows, hfollows'⟩
  · intro oneof json literal hjson hliteral
    exact ⟨Json.emits_of_block_eq_ok hjson, Literal.emits_of_block_eq_ok hliteral⟩

namespace Sample

/-- The optional field of `post`. -/
def priority : Field :=
  { Field.ofName "priority" (.scalar .int32) with optional := true, jsonName := "rich_body" }

end Sample

/-- The type of the optional field of `post` is an option.  Both routines look for a value,
and the JSON routine copies it. -/
theorem Sample.priority_guarded :
    priority ∈ post.standalone ∧
    ∃ json literal, Json.block {} post (.member priority) = .ok json ∧
      Literal.block {} post (.member priority) = .ok literal ∧
      ∃ type, FieldType.resolve post priority = .ok type ∧ type.IsOption ∧
        json.steps {} post =
          [.enter "if let Some(value) = &self.priority \x7b",
            .line ("fields.insert(\"rich_body\".to_string(), " ++
              "::serde_json::Value::from(f64::from(*value)));"),
            .leave "\x7d"] ∧
        literal.steps {} post =
          [.enter "if let Some(value) = &self.priority \x7b",
            .nest [.line
              "out.push_str(&format!(\"\x7b\x7dpriority: \x7b\x7d,\\n\", indent, value));"],
            .leave "\x7d"] := by
  obtain ⟨json, hjson⟩ := faultOf?_eq_none_iff.mp
    (show faultOf? (Json.block {} post (.member priority)) = none from rfl)
  obtain ⟨literal, hliteral⟩ := faultOf?_eq_none_iff.mp
    (show faultOf? (Literal.block {} post (.member priority)) = none from rfl)
  obtain ⟨hfields, _⟩ := Message.guards_follow_types {} post
  obtain ⟨type, htype, hfollows, hfollows'⟩ := hfields priority json literal hjson hliteral
  have hoption : type.IsOption := by
    cases htype
    exact FieldType.isOption_of_nullable rfl
  refine ⟨by decide, json, literal, hjson, hliteral, type, htype, hoption, ?json, ?literal⟩
  case json =>
    obtain ⟨inside, hblock⟩ := hfollows.guarded_iff.mpr hoption
    obtain ⟨node, hnode, rfl⟩ := hfollows.behind_guard inside hblock
    cases hnode with
    | number _ => exact hblock
    | decimal htype => exact absurd htype (by decide)
  case literal =>
    obtain ⟨inside, hblock⟩ := hfollows'.guarded_iff.mpr hoption
    obtain ⟨shown, rfl, hshown⟩ := hfollows'.behind_guard inside hblock
    cases hshown with
    | scalar _ _ hverb =>
      rw [hverb] at hblock
      exact hblock

end MessageDump
