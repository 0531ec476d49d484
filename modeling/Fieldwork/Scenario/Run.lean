import Fieldwork.Scenario.Fields
import Fieldwork.Scenario.Sources
/-!
Running a scenario. What was logged comes with the answer to the step in which it was logged.
-/
namespace Fieldwork.Scenario

def drainLog (r : Report) (s : Session) : Answer × Session :=
  ((r, s.store.log), s.setStore { s.store with log := [] })

mutual
def perform (s : Session) : Step → Attempt
  | .setSlot i v => s.done (s.store.setSlot i (some v))
  | .resetSlot i => s.done (s.store.setSlot i none)
  | .slots => some (.entries s.store.slotList, s)
  | .newContext name plan entries => s.newContext name plan entries
  | .copyContext name source => s.copyContext name source
  | .enter context key v => s.enter context key v
  | .read context key type => s.read context key type
  | .has context key => s.has context key
  | .dump context keys => s.dump context keys
  | .cancel context => s.cancel context
  | .isCancelled context => s.isCancelled context
  | .currentHas key => s.currentHas key
  | .plan name accessors options => s.newPlan name accessors options
  | .planOfText name accessors settings => s.planOfText name accessors settings
  | .describePlan p => s.describePlan p
  | .capture p source name => s.capture p source name
  | .captured snapshot key => s.captured snapshot key
  | .overlay snapshot context name => s.overlay snapshot context name
  | .wrap snapshot steps =>
    match Dict.get? s.snapshots snapshot with
    | none => none
    | some snap =>
      let (scope, st) := snap.install s.store
      match performAll (s.setStore st) steps with
      | none => none
      | some (answers, s) => some (.inside answers, s.setStore (scope.close s.store))
  | .openScope snapshot name => s.openScope snapshot name
  | .closeScope name => s.closeScope name
  | .instrument snapshot context value name => s.instrument snapshot context value name
  | .newSignal name => s.newSignal name
  | .copySignal name source => s.copySignal name source
  | .setSignal r => s.setSignal r
  | .showSignal r => s.showSignal r
  | .bind r value name => s.bind r value name
  | .newChannel name kind capacity => s.newChannel name kind capacity
  | .send channel o => s.send channel o
  | .closeChannel channel => s.done (s.store.closeSender channel)
  | .newAdapters name bare more => s.newAdapters name bare more
  | .view how adapters value name => s.view how adapters value name
  | .inspect value => s.inspect value
  | .newFetcher name spec => s.newFetcher name spec.fetcher none
  | .decorate name delegate subscription resolver adapters =>
    s.decorate name delegate subscription resolver adapters
  | .showDecorator fetcher delegate => s.showDecorator fetcher delegate
  | .describe f => s.describe f
  | .fetch f call name => s.fetch f call name
  | .describeCall call => s.describeCall call
  | .resolve resolver f => s.resolve resolver f
  | .describeComposite count => some (.text (Resolver.describeComposite count), s)
  | .showFailure f => some (.failure f, s)
  | .newWiring name => some (.done, s.putWiring name [])
  | .register wiring fetcher fields => s.register wiring fetcher fields
  | .copyWiring name source => s.copyWiring name source
  | .showWiring wiring => s.showWiring wiring
  | .isWired wiring field => s.isWired wiring field
  | .install name source schema resolvers adapters =>
    s.install name source schema resolvers adapters
  | .installStandard name source schema resolvers => s.installStandard name source schema resolvers
  | .probe wiring => s.probe wiring
  | .poll handle times => s.poll handle times
  | .pollOnThread handle times slots => s.pollOnThread handle times slots
  | .drain handle => s.drain handle
  | .sizeHint handle => s.sizeHint handle
  | .drop handle => s.drop handle
  | .runTasks => s.runTasks
  | .openGate name => s.openGate name
def performAll (s : Session) : List Step → Option (List Answer × Session)
  | [] => some ([], s)
  | step :: steps =>
    match perform s step with
    | none => none
    | some (r, s) =>
      let (answer, s) := drainLog r s
      match performAll s steps with
      | none => none
      | some (answers, s) => some (answer :: answers, s)
end

def run (steps : List Step) : Option (List Answer) := (performAll {} steps).map (·.1)

end Fieldwork.Scenario
