/-!
# Sample templates

Templates to try panels with. They use the blocks `root`, `panel`, `text`, `button` and
`banner`.
-/

namespace LivePanel.Rehearsal.Sample

/-- The text of lines, each ended by a line break. -/
def ofLines (lines : List String) : String := lines.foldl (fun text line => text ++ line ++ "\n") ""

/-- The smallest template. -/
def minimal : String :=
  ofLines ["",
    "name: X",
    "bootstrap:",
    "  capabilityId: root",
    "components: []"]

/-- A banner that is shown while a flag is set. -/
def conditional : String :=
  ofLines ["",
    "name: conditional",
    "bootstrap: panel",
    "components:",
    "  - block: banner",
    "    condition: \"\x7b\x7b state.flag \x7d\x7d\"",
    "    children:",
    "      - block: text",
    "        props: \x7b value: Welcome \x7d"]

/-- A counter with a button, a message and a host event. -/
def counter : String :=
  ofLines ["",
    "name: counter",
    "version: 1.2.0",
    "bootstrap:",
    "  block: panel",
    "  props: \x7b title: Counter \x7d",
    "state:",
    "  count: 0",
    "components:",
    "  - block: text",
    "    props: \x7b value: \"\x7b\x7b state.count \x7d\x7d\" \x7d",
    "  - block: button",
    "    props: \x7b label: \"+1\" \x7d",
    "    on: \x7b click: increment \x7d",
    "actions:",
    "  increment:",
    "    type: setState",
    "    path: count",
    "    value: 1",
    "    then: [announce]",
    "  announce:",
    "    type: sendMessage",
    "    message: counted",
    "    payload: \x7b count: \"\x7b\x7b state.count \x7d\x7d\" \x7d",
    "  reset:",
    "    type: setState",
    "    path: count",
    "    value: 0",
    "events:",
    "  - event: reset-requested",
    "    action: reset"]

/-- A request to the assistant whose answer is stored and acknowledged. -/
def assistant : String :=
  ofLines ["",
    "name: assistant",
    "bootstrap: panel",
    "state:",
    "  topic: rust",
    "components:",
    "  - block: text",
    "    props: \x7b value: \"\x7b\x7b state.summary \x7d\x7d\" \x7d",
    "  - block: button",
    "    props: \x7b label: Summarise \x7d",
    "    on: \x7b click: summarise \x7d",
    "actions:",
    "  summarise:",
    "    type: requestAI",
    "    prompt: \"Summarise \x7b\x7b state.topic \x7d\x7d\"",
    "    context: \x7b topic: \"\x7b\x7b state.topic \x7d\x7d\" \x7d",
    "    storeAs: summary",
    "    onSuccess:",
    "      - type: sendMessage",
    "        message: summarised",
    "        payload: \x7b text: \"\x7b\x7b response.text \x7d\x7d\" \x7d"]

/-- A template with a component whose block is unlikely to be registered. -/
def missingBlock : String :=
  ofLines ["",
    "name: missing",
    "bootstrap: panel",
    "components:",
    "  - text",
    "  - block: does-not-exist",
    "  - text"]

/-- A document whose root is not a mapping. -/
def malformed : String :=
  ofLines ["- this",
    "- is",
    "- a list"]

/-- A template of a name with one text. -/
def simple (name : String) : String :=
  ofLines ["name: " ++ name, "bootstrap: panel", "components:", "  - block: text",
    "    props: \x7b value: " ++ name ++ " \x7d"]

end LivePanel.Rehearsal.Sample
