import ArtifactPipeline.Model.Script
import ArtifactPipeline.Text.Search

/-!
# The demonstration model

A scripted model that classifies every request as a simple tool and answers it with a counter.
-/

namespace ArtifactPipeline.Demo

/-- The classification of every request. -/
def classification : String :=
  Text.join "\n" [
    "\x7b\"intent\":\"utility\",\"complexity\":\"simple\",",
    "\"key_features\":[\"counter display\",\"increment and reset buttons\"],",
    "\"suggested_dependencies\":[\"react\",\"lucide-react\"],\"estimated_lines\":30\x7d"]

/-- The reply to every request for a component. -/
def component : String :=
  Text.join "\n" [
    "Here is the component.",
    "",
    "```tsx",
    "import React, \x7b useState \x7d from 'react';",
    "import \x7b Plus, RotateCcw \x7d from 'lucide-react';",
    "",
    "export default function Counter() \x7b",
    "  const [count, setCount] = useState(0);",
    "",
    "  return (",
    "    <div className=\"flex items-center gap-3 rounded-lg border p-4\">",
    "      <span className=\"text-2xl font-semibold tabular-nums\">\x7bcount\x7d</span>",
    "      <button className=\"rounded bg-blue-600 p-2 " ++
      "text-white\" onClick=\x7b() => setCount(count + 1)\x7d>",
    "        <Plus className=\"h-4 w-4\" />",
    "      </button>",
    "      <button className=\"rounded border p-2\" onClick=\x7b() => setCount(0)\x7d>",
    "        <RotateCcw className=\"h-4 w-4\" />",
    "      </button>",
    "    </div>",
    "  );",
    "\x7d",
    "```"]

/-- The model that gives these replies. -/
def model : ScriptedModel :=
  let scripted : ScriptedModel := {}
  (scripted.withResponse "You classify requests" classification).withResponse
    "You write a single self-contained" component

end ArtifactPipeline.Demo
