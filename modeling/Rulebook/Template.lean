import Rulebook.Rule

/-!
# Flow templates

Ready-made starting points for a rule.
-/

namespace Rulebook

/-- A starting point for a rule. -/
structure Template where
  key : String
  /-- What the template is called. -/
  label : String
  triggerType : String
  /-- The parameters of the event, as JSON text. -/
  triggerParams : String
  conditions : List (ConditionKey × String)
  actions : List Action
deriving DecidableEq, Repr, Inhabited

namespace Template

/-- The templates, in the order in which they are offered. -/
def all : List Template :=
  [
    { key := "lead_welcome"
      label := "New Lead → Welcome Email"
      triggerType := "lead_created"
      triggerParams := ""
      conditions := []
      actions := [
        ⟨.str "send_email_template", .obj [("templateId", .str "TEMPLATE_ID"),
          ("to", .str ""), ("variables", .obj [])]⟩,
        ⟨.str "create_task", .obj [("title", .str "Contact the new lead within 24 hours"),
          ("dueDate", .str "")]⟩] },
    { key := "no_activity"
      label := "No Activity → Slack Notification + Task"
      triggerType := "lead_updated"
      triggerParams := ""
      conditions := [(.noActivity, "1440")]
      actions := [
        ⟨.str "notify_slack", .obj [("webhookUrl", .str ""),
          ("text", .str "Lead has been inactive for a long time.")]⟩,
        ⟨.str "create_task", .obj [("title", .str "Check inactive lead"),
          ("dueDate", .str "")]⟩] }
  ]

/-- The template of a key. -/
def find? (key : Json) : Option Template :=
  all.find? fun template => Json.str template.key == key

end Template

end Rulebook
