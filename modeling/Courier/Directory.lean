import Courier.Registry

/-!
Opening topics and subscriptions by URL: a registry for each, and openers that can change a state
when they are asked.
-/

namespace Courier

/-- Opens a URL: a handle or a fault, and the state afterwards. -/
abbrev Opener (σ ε τ : Type) := Url → σ → Except (Fault ε) τ × σ

structure Directory (σ ε τ υ : Type) where
  topics : Registry (Opener σ ε τ)
  subscriptions : Registry (Opener σ ε υ)

namespace Directory

variable {σ ε τ υ : Type}

def empty : Directory σ ε τ υ := ⟨.empty "Topic", .empty "Subscription"⟩

def registerTopic (d : Directory σ ε τ υ) (scheme : String) (opener : Opener σ ε τ) :
    Except SchemeTaken (Directory σ ε τ υ) :=
  (d.topics.register scheme opener).map fun r => { d with topics := r }

def registerSubscription (d : Directory σ ε τ υ) (scheme : String) (opener : Opener σ ε υ) :
    Except SchemeTaken (Directory σ ε τ υ) :=
  (d.subscriptions.register scheme opener).map fun r => { d with subscriptions := r }

/-- Hands a URL on to the opener that was found for it; nothing changes if there is none. -/
def handOn {τ : Type} (found : Except (Fault ε) (Opener σ ε τ × Url)) (s : σ) :
    Except (Fault ε) τ × σ :=
  match found with
  | .ok (o, u) => o u s
  | .error f => (.error f, s)

def openTopic (d : Directory σ ε τ υ) (text : String) (s : σ) : Except (Fault ε) τ × σ :=
  handOn (d.topics.resolve text) s

def openSubscription (d : Directory σ ε τ υ) (text : String) (s : σ) : Except (Fault ε) υ × σ :=
  handOn (d.subscriptions.resolve text) s

/-- The same for a URL that is read already. -/
def openTopicUrl (d : Directory σ ε τ υ) (u : Url) (s : σ) : Except (Fault ε) τ × σ :=
  handOn ((d.topics.lookup u).map fun o => (o, u)) s

def openSubscriptionUrl (d : Directory σ ε τ υ) (u : Url) (s : σ) : Except (Fault ε) υ × σ :=
  handOn ((d.subscriptions.lookup u).map fun o => (o, u)) s

end Directory

end Courier
