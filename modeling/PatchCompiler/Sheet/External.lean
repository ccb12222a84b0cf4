import PatchCompiler.Template.Basic

/-!
# Code of externals

The file that wraps a program as an object for patches.
-/

namespace PatchCompiler.Sheet

def channelsPlus (n : Int) : Piece :=
  .value (.operation .add (.operation .add (.name "num_input_channels") (.name "num_output_channels"))
    (.number n))

def externalSource : Template :=
  [.text ["`copyright`\n\n#include <alloca.h>\n#include <string.h>\n#include \"m_pd.h\"",
     "#include \"Heavy_`name`.h\"\n\nstatic t_class *`struct_name`_class;\n",
     "typedef struct _`struct_name` \x7b
  t_object x_obj;\n  "],
   .for_ ["i"] (.range (.number 1) (.name "num_input_channels")) [.text ["\n  t_inlet *inlet`i`;"]],
   .counted "num_output_channels" [.text ["\n  t_outlet *outlet`i`;"]],
   .text ["
  t_outlet *msgOutlet;\n
  HeavyContextInterface *hv;
  t_float f; // dummy\n\x7d t_`struct_name`;\n",
     "static void printHook(HeavyContextInterface *c, const char *receiverName, const char *msgString, const HvMessage *m) \x7b
  double timestampMs = 1000.0 * ((double) hv_msg_getTimestamp(m)) / hv_getSampleRate(c);
  post(\"[`display_name` @ %0.3gms] %s: %s\", timestampMs, receiverName, msgString);\n\x7d\n",
     "static void sendHook(HeavyContextInterface *c, const char *receiverName, unsigned int receiverHash, const HvMessage * m) \x7b
  if (!strcmp(receiverName, \"#HV_TO_PD\")) \x7b
    t_outlet *const outlet = ((t_`struct_name` *) hv_getUserData(c))->msgOutlet;
    if (hv_msg_getNumElements(m) == 1) \x7b
      if (hv_msg_isFloat(m, 0)) \x7b
        outlet_float(outlet, hv_msg_getFloat(m, 0));
      \x7d else if (hv_msg_isBang(m, 0)) \x7b
        outlet_bang(outlet);
      \x7d else if (hv_msg_isSymbol(m, 0)) \x7b
        outlet_symbol(outlet, gensym(hv_msg_getSymbol(m, 0)));
      \x7d else return;
    \x7d else \x7b
      const int argc = (int) hv_msg_getNumElements(m);
      t_atom *argv = (t_atom *) alloca(argc*sizeof(t_atom));
      for (int i = 0; i < argc; i++) \x7b
        if (hv_msg_isFloat(m, i)) \x7b
          SETFLOAT(argv+i, hv_msg_getFloat(m, i));
        \x7d else if (hv_msg_isSymbol(m, i)) \x7b
          SETSYMBOL(argv+i, gensym(hv_msg_getSymbol(m, i)));
        \x7d else return;
      \x7d
      outlet_list(outlet, NULL, argc, argv);
    \x7d
  \x7d\n\x7d\n\nstatic void *`struct_name`_new(t_symbol *s, int argc, t_atom *argv) \x7b
  t_`struct_name` *x = (t_`struct_name` *) pd_new(`struct_name`_class);"],
   .for_ ["i"] (.range (.number 1) (.name "num_input_channels"))
     [.text ["\n  x->inlet`i` = signalinlet_new(&x->x_obj, 0.0f);"]],
   .counted "num_output_channels"
     [.text ["\n  x->outlet`i` = outlet_new(&x->x_obj, &s_signal);"]],
   .text ["
  x->msgOutlet = outlet_new(&x->x_obj, &s_anything);\n
  x->hv = hv_`name`_new((double) sys_getsr());
  hv_setUserData(x->hv, x);
  hv_setPrintHook(x->hv, printHook);
  hv_setSendHook(x->hv, sendHook);\n
  return (void *) x;\n\x7d\n\nstatic void `struct_name`_free(t_`struct_name` *x) \x7b"],
   .for_ ["i"] (.upTo (.operation .subtract (.name "num_input_channels") (.number 1)))
     [.text ["\n  inlet_free(x->inlet"],
      .value (.operation .add (.name "i") (.number 1)),
      .text [");"]],
   .counted "num_output_channels" [.text ["\n  outlet_free(x->outlet`i`);"]],
   .text ["
  outlet_free(x->msgOutlet);
  hv_delete(x->hv);\n\x7d\n\nstatic t_int *`struct_name`_perform(t_int *w) \x7b
  t_`struct_name` *x = (t_`struct_name` *) w[1];"],
   .choose (.positive (.name "num_input_channels"))
     [.text ["\n  float *inputChannels[`num_input_channels`] = \x7b"],
      .counted "num_input_channels"
        [.text ["\n    (t_sample *) w["],
         .value (.operation .add (.name "i") (.number 2)),
         .text ["],"]],
      .text ["\n  \x7d;"]]
     [.text ["\n  float **inputChannels = NULL;"]],
   .choose (.positive (.name "num_output_channels"))
     [.text ["\n  float *outputChannels[`num_output_channels`] = \x7b"],
      .counted "num_output_channels"
        [.text ["\n    (t_sample *) w["],
         .value (.operation .add (.operation .add (.name "num_input_channels") (.name "i")) (.number 2)),
         .text ["],"]],
      .text ["\n  \x7d;"]]
     [.text ["\n  float **outputChannels = NULL;"]],
   .text ["\n  int n = (int) (w["],
   channelsPlus 2,
   .text ["]);\n\n  hv_process(x->hv, inputChannels, outputChannels, n);\n\n  return (w+"],
   channelsPlus 3,
   .text [");\n\x7d\n\nstatic void `struct_name`_dsp(t_`struct_name` *x, t_signal **sp) \x7b
  dsp_add(`struct_name`_perform,\n      "],
   channelsPlus 2,
   .text [", x,"],
   .counted "num_input_channels" [.text ["\n      sp[`i`]->s_vec,"]],
   .for_ ["i"] (.range (.operation .greatest (.name "num_input_channels") (.number 1)) (.operation .add (.operation .greatest (.name "num_input_channels") (.number 1)) (.name "num_output_channels")))
     [.text ["\n      sp[`i`]->s_vec,"]],
   .text ["
      sp[0]->s_n);\n\x7d\n",
     "static void `struct_name`_onMessage(t_`struct_name` *x, t_symbol *s0, int argc, t_atom* argv) \x7b
  // convert a Pd message into a Heavy message
  HvMessage *msg = (HvMessage *) alloca(hv_msg_getByteSize(argc > 0 ? argc : 1));
  if (argc > 0) \x7b
    hv_msg_init(msg, argc, 0);
    for (int i = 0; i < argc; i++) \x7b
      switch (argv[i].a_type) \x7b
        case A_FLOAT: hv_msg_setFloat(msg, i, atom_getfloat(argv+i)); break;
        case A_SYMBOL: hv_msg_setSymbol(msg, i, atom_getsymbol(argv+i)->s_name); break;
        default: return;
      \x7d
    \x7d
  \x7d else \x7b
    hv_msg_init(msg, 1, 0);
    hv_msg_setBang(msg, 0);
  \x7d
  hv_sendMessageToReceiver(x->hv, hv_stringToHash(s0->s_name), 0.0, msg);\n\x7d\n",
     "void `struct_name`_setup() \x7b
  `struct_name`_class = class_new(gensym(\"`display_name`\"),
      (t_newmethod) `struct_name`_new,
      (t_method) `struct_name`_free,
      sizeof(t_`struct_name`),
      CLASS_DEFAULT, A_GIMME, 0);
  class_addmethod(`struct_name`_class, (t_method) `struct_name`_dsp, gensym(\"dsp\"), 0);
  class_addanything(`struct_name`_class, (t_method) `struct_name`_onMessage);
  CLASS_MAINSIGNALIN(`struct_name`_class, t_`struct_name`, f);\n\x7d\n"]]

end PatchCompiler.Sheet
