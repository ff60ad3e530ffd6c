import AuditRules.Evaluation
import AuditRules.Rule
import AuditRules.Value.Render
import AuditRules.Verdict

namespace AuditRules

/-- The place of one comparison: the check it belongs to, and how many delegations lead to it. -/
structure Site where
  checkId : String
  depth : Nat
  renderLimit : Nat

namespace Site

def render (site : Site) (v : Value) : String := v.render site.renderLimit

def describe (site : Site) : String :=
  "EvaluationContext \x7b check_id: " ++ Quoted.quote site.checkId ++ ", depth: " ++
    toString site.depth ++ " \x7d"

def event (site : Site) (message : String) (context : List (String × String)) : Evaluation Unit :=
  .log (.debug message (("check_id", site.checkId) :: context))

end Site

structure Context extends Site where
  delegate : Value → Value → Evaluation Verdict

structure Comparator where
  tag : String
  aliases : List String
  modes : List String
  compare : Context → Rule → Value → Evaluation Verdict

namespace Comparator

def names (c : Comparator) : List String := c.tag :: c.aliases

/-- Answers every rule with one outcome. -/
def fixed (tag : String) (aliases modes : List String) (outcome : Outcome)
    (message : Site → Rule → Value → String) : Comparator where
  tag := tag
  aliases := aliases
  modes := modes
  compare ctx rule actual := pure ⟨outcome, message ctx.toSite rule actual⟩

/-- Answers every rule as another rule would be answered. -/
def forwarding (tag : String) (aliases modes : List String) (target : Value) : Comparator where
  tag := tag
  aliases := aliases
  modes := modes
  compare ctx _ actual := ctx.delegate target actual

end Comparator

end AuditRules
