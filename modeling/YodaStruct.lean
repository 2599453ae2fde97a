import YodaStruct.Config.Order
import YodaStruct.Config.Quoting
import YodaStruct.Config.Sections
import YodaStruct.Library.Components
import YodaStruct.Config.Layout
import YodaStruct.Config.Locality
import YodaStruct.Driver.Lifetime
import YodaStruct.Binding.Prism
import YodaStruct.Library.Rekey
import YodaStruct.Binding.Topology
import YodaStruct.Binding.Domain
import YodaStruct.Config.Bounds
import YodaStruct.Driver.Settings
import YodaStruct.Dseams.Lua
import YodaStruct.Dseams.Read
import YodaStruct.Dseams.Density
import YodaStruct.Library.LuaHeap
import YodaStruct.Library.Simulation
import YodaStruct.Binding.Containers
import YodaStruct.Library.LuaRecord
import YodaStruct.Library.LuaLoop
import YodaStruct.Binding.Calls
import YodaStruct.Dseams.Pipelines
import YodaStruct.Library.CommandGrammar
import YodaStruct.Driver.Options
import YodaStruct.Driver.Main
import YodaStruct.Driver.Schedule
import YodaStruct.Driver.Compiler
import YodaStruct.Binding.Scripts
import YodaStruct.Binding.Sites
import YodaStruct.Dseams.Profiles
import YodaStruct.Binding.Marshalling
import YodaStruct.Binding.Keys
import YodaStruct.Binding.Rules
import YodaStruct.Binding.Slices
import YodaStruct.Dseams.Keys
import YodaStruct.Dseams.Domains
import YodaStruct.Dseams.Shells
import YodaStruct.Driver.Refinement
