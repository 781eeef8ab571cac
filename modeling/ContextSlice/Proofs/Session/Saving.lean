import ContextSlice.Proofs.Session.Forward
import ContextSlice.Session.Assembly

/-!
# Settings for saving

Where slices are saved, and whether they are, has no part in answering a request
(`Session.context_saving`).
-/

namespace ContextSlice

/-- The same settings but for where slices are saved, and whether they are. -/
def Settings.saving (settings : Settings) (folder : FilePath) (save : Bool) : Settings :=
  { settings with outputFolder := folder, saveSnapshots := save }

namespace Session

/-- The same session with other settings for saving. -/
def saving (session : Session) (folder : FilePath) (save : Bool) : Session :=
  { session with settings := session.settings.saving folder save }

section
variable {folder : FilePath} {save : Bool}

/-- Settings for saving make no other session, but for these settings. -/
theorem ofDocument_saving (document : Document) (settings : Settings) :
    ofDocument document (settings.saving folder save) =
      (ofDocument document settings).saving folder save := rfl

/-- They do not matter to a context. -/
theorem contextIds_saving (session : Session) (symbols : List Json) :
    (session.saving folder save).contextIds symbols = session.contextIds symbols := by
  have hhas (id : String) : (session.saving folder save).index.has id = session.index.has id := rfl
  have hreferences (id : String) :
      (session.saving folder save).referencesOf id = session.referencesOf id := rfl
  have hforward (seeds : List String) :
      (session.saving folder save).forward seeds = session.forward seeds :=
    congrArg Prod.fst (spread_congr hhas hreferences _ _)
  rw [contextIds, contextIds, close, close, hforward]
  rfl

/-- A session with other settings for saving gives the same slice. -/
theorem context_saving (session : Session) (symbols : List Json) :
    (session.saving folder save).context symbols = session.context symbols := by
  rw [context, context, contextIds_saving]
  rfl

end

end Session

end ContextSlice
