import Tickwork.Catalog.Attributes

/-!
# The bundled modules

The modules of the bundled factories. Beside the two builders and the list of them they hold what the
factories are made with: the primitives, the nodes of a pipe and the callables, which are of no use as
factories and refuse to be asked for one or answer with something else.
-/

set_option autoImplicit false

namespace Tickwork

namespace Provided

def bundledBuilder (name : String) : Provided :=
  .builder fun sites =>
    match bundled? name with
    | some (.ok g) => .ok (.source (.graph g), sites)
    | some (.error fault) => .error fault
    | none => .error (.catalog (.unknown name))

end Provided

namespace Shelf

open Provided

def bundledFactories : ModuleItems :=
  let review := bundledBuilder ReviewDraft.id
  let magic := bundledBuilder MagicEight.id
  [(defaultItem, .list [review, magic]), ("build_review_draft", review),
    ("build_magic_eight", magic)]

/-- The records that factories and their callables deal in, with what they cannot be made without. -/
def records : ModuleItems :=
  let place := ["context", "task", "state_id", "run_id", "tick_id"]
  let needs : List (String × List String) :=
    [("FactoryDefinition", ["id", "start", "states"]),
      ("FactoryGraph", ["id", "start", "context", "states"]), ("HandlerInput", place),
      ("HandlerResult", ["status"]), ("SelectorInput", place)]
  ("AwaitFeedback", answering "AwaitFeedback") ::
    needs.map fun (name, parts) => (name, needing (name ++ ".__init__") parts)

/-- The means to write a factory, with what they have to be told. -/
def means : ModuleItems :=
  let needs : List (String × List String) :=
    [("ask", ["prompt", "on"]), ("compile_factory", ["definition"]),
      ("compile_pipe", ["id", "run"]), ("decide", ["select", "branches"]), ("end", ["status"]),
      ("loop", ["body", "max_iterations", "on"]), ("pipe_ask", ["prompt"]),
      ("pipe_step", ["run"]), ("publish", ["render"]), ("route", ["select", "on"]),
      ("step", ["run", "on"]), ("write", ["render"])]
  [("end_done", answering "PipeEnd"), ("end_failed", answering "PipeEnd"),
    ("flow", answering "Flow"), ("retry", answering "RetryPolicy")] ++
    needs.map fun (name, parts) => (name, needing name parts)

/-- The callables of the bundled factories, with what they have to be told. -/
def callables : ModuleItems :=
  let needs : List (String × List String) :=
    [("start_draft", ["payload"]), ("parse_decision", ["_", "reply"]),
      ("select_decision", ["payload"]), ("revise_draft", ["payload"]),
      ("render_review", ["payload"]), ("choose_answer", ["question", "round_number"]),
      ("_question_prompt", ["round_number"]), ("_conversation_prompt", ["ctx"]),
      ("_parse_conversation", ["ctx", "reply"]), ("_render_history", ["ctx"])]
  needs.map fun (name, parts) => (name, needing name parts)

/-- The words and other plain things that the bundled factories use. -/
def constants : ModuleItems :=
  [("REVIEW_FACTORY_ID", .other "str"), ("MAGIC_EIGHT_FACTORY_ID", .other "str"),
    ("RESPONSES", .other "str"), ("ROUTE_UNMAPPED_EVENT", .other "str"),
    ("annotations", .other "_Feature"), ("Any", refusing "Any cannot be instantiated")]

/-- The modules of the bundled factories. -/
def bundled : Shelf :=
  let part : Provided := .other "module"
  let parts := ["config", "engine", "errors", "factories", "factory", "main", "runner", "storage"]
  [("taskfactory",
      ⟨("__version__", .other "str") :: parts.map (·, part) ++ Attributes.ofPackage, true⟩),
    ("taskfactory.factories",
      ⟨bundledFactories ++ [("__all__", .other "str"), ("examples", part)] ++ Attributes.ofPackage,
        true⟩),
    ("taskfactory.factories.examples",
      ⟨bundledFactories ++ constants ++ records ++ means ++ callables ++ Attributes.ofFile, false⟩)]

end Shelf

end Tickwork
