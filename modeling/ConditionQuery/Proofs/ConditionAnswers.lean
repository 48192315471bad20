import ConditionQuery.Proofs.StoreFrame

/-! What a hub answers to a request about conditions, by what compiling comes to or what is found
under the id. -/
namespace ConditionQuery

/-- The request binds the condition with the id to an event. -/
structure Request.Binds (request : Request) (id : String) (event : Event) : Prop where
  posted : request.method = .post
  addressed : request.Addresses .binding id
  decoded : request.read BindRequest.shape BindRequest.decode = .ok ⟨event⟩

/-- The answer that a binding comes to. -/
def Response.ofBinding : Except BindError QuerySpec → Response
  | .ok spec => .document .ok spec.encode
  | .error err => .document .unprocessableEntity (.object [("error", .string err.message)])

namespace Hub

variable {hub : Hub} {visit : Visit} {id : String} {wanted : CompileRequest}

theorem answer_compile (sent : visit.request.Posts .compile wanted) :
    hub.answer visit =
      match hub.config.compile wanted with
      | .ok c => .document .ok (.object c.answerMembers)
      | .error r => .refusal r := by
  rw [answer, respond_compile sent]
  cases hub.config.compile wanted <;> rfl

theorem answer_create (sent : visit.request.Posts .conditions wanted) :
    hub.answer visit =
      match hub.config.compile wanted with
      | .ok c => .document .created (entry visit.arrival wanted c).encode
      | .error r => .refusal r := by
  rw [answer, respond_conditions sent, create]
  cases hub.config.compile wanted <;> rfl

theorem answer_get (asked : visit.request.method = .get)
    (addressed : visit.request.Addresses .condition id) :
    hub.answer visit =
      match hub.find id with
      | .ok stored => .document .ok stored.encode
      | .error r => .refusal r := by
  obtain ⟨raw, routed, decoded⟩ := addressed
  simp only [answer, respond, routed, asked, serve?, decoded, Option.getD_some]
  change (hub.unchanged (hub.find id >>= fun stored => .ok (.document .ok stored.encode))).1 = _
  cases hub.find id <;> rfl

theorem answer_bind {event : Event} (binds : visit.request.Binds id event) :
    hub.answer visit =
      match hub.find id with
      | .ok stored => .ofBinding (QuerySpec.build stored.compiled event)
      | .error r => .refusal r := by
  obtain ⟨raw, routed, decoded⟩ := binds.addressed
  simp only [answer, respond, routed, binds.posted, serve?, decoded, binds.decoded,
    Option.getD_some]
  change (hub.unchanged (hub.bind id event >>= fun spec => .ok (.document .ok spec.encode))).1 = _
  unfold bind
  cases hub.find id with
  | error r => rfl
  | ok stored =>
    change (hub.unchanged ((QuerySpec.build stored.compiled event).mapError .unbindable >>= _)).1 =
      Response.ofBinding (QuerySpec.build stored.compiled event)
    cases QuerySpec.build stored.compiled event <;> rfl

end Hub
end ConditionQuery
