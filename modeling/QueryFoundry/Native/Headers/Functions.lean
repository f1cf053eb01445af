import QueryFoundry.Text.Octets

/-!
# Headers of functions as objects

The headers of C++ that declare functions as objects, and objects that own others.
-/

namespace QueryFoundry.Native.Headers

open Text (Octets)

/-- Functions as objects. -/
def functionObjects : Octets := "
 #include <tuple>
 #include <__hash>
 #include <__failures>
 #include <__throwing>
 #include <__memory>
 #include <typeinfo>
 namespace std <%
 class bad_function_call : public exception <%
 public:
   const char *what() const noexcept override <% return \"bad_function_call\"; %>
 %>;
 template <class A, class R> struct unary_function <%
   typedef A argument_type; typedef R result_type; %>;
 template <class A, class B, class R> struct binary_function <%
   typedef A first_argument_type; typedef B second_argument_type; typedef R result_type; %>;
 #define __FUNCTOR(name, mark, result) \\
   template <class T = void> struct name <% \\
     typedef T first_argument_type; typedef T second_argument_type; typedef result result_type; \\
     constexpr result operator()(const T &a, const T &b) const <% return a mark b; %> %>; \\
   template <> struct name<void> <% \\
     template <class T, class U> constexpr auto operator()(T &&a, U &&b) const \\
         -> decltype(forward<T>(a) mark forward<U>(b)) <% \\
       return forward<T>(a) mark forward<U>(b); %> %>;
 __FUNCTOR(plus, +, T)
 __FUNCTOR(minus, -, T)
 __FUNCTOR(multiplies, *, T)
 __FUNCTOR(divides, /, T)
 __FUNCTOR(modulus, %, T)
 __FUNCTOR(bit_and, &, T)
 __FUNCTOR(bit_or, |, T)
 __FUNCTOR(bit_xor, ^, T)
 __FUNCTOR(equal_to, ==, bool)
 __FUNCTOR(not_equal_to, !=, bool)
 __FUNCTOR(greater, >, bool)
 __FUNCTOR(less, <, bool)
 __FUNCTOR(greater_equal, >=, bool)
 __FUNCTOR(less_equal, <=, bool)
 __FUNCTOR(logical_and, &&, bool)
 __FUNCTOR(logical_or, ||, bool)
 #undef __FUNCTOR
 template <class T = void> struct negate <% constexpr T operator()(const T &a) const <%
     return -a; %> %>;
 template <class T = void> struct logical_not <%
   constexpr bool operator()(const T &a) const <% return !a; %> %>;
 template <class T = void> struct bit_not <% constexpr T operator()(const T &a) const <%
     return ~a; %> %>;
 template <class T> class reference_wrapper <%
   T *__object;
 public:
   typedef T type;
   reference_wrapper(T &object) noexcept : __object(addressof(object)) <%%>
   reference_wrapper(T &&) = delete;
   operator T &() const noexcept <% return *__object; %>
   T &get() const noexcept <% return *__object; %>
   template <class... A> auto operator()(A &&...given) const
       -> decltype((*__object)(forward<A>(given)...)) <%
     return (*__object)(forward<A>(given)...); %>
 %>;
 template <class T> reference_wrapper<T> ref(T &object) noexcept <%
   return reference_wrapper<T>(object); %>
 template <class T> reference_wrapper<T> ref(reference_wrapper<T> object) noexcept <%
   return object; %>
 template <class T> reference_wrapper<const T> cref(const T &object) noexcept <%
   return reference_wrapper<const T>(object); %>
 template <class T> struct __is_reference_wrapper : false_type <%%>;
 template <class T> struct __is_reference_wrapper<reference_wrapper<T>> : true_type <%%>;
 template <class C, class T> T &__reach(T &object, int) <% return object; %>
 template <class C, class T, bool = is_base_of<C, typename decay<T>::type>::value,
     bool = __is_reference_wrapper<typename decay<T>::type>::value>
 struct __object_for <% static auto of(T &object) -> decltype(*object) <% return *object; %> %>;
 template <class C, class T, bool w> struct __object_for<C, T, true, w> <%
   static T &of(T &object) <% return object; %> %>;
 template <class C, class T> struct __object_for<C, T, false, true> <%
   static auto of(T &object) -> decltype(object.get()) <% return object.get(); %> %>;
 template <class F> struct __caller <%
   template <class G, class... A> static auto call(G &&f, A &&...given)
       -> decltype(forward<G>(f)(forward<A>(given)...)) <%
     return forward<G>(f)(forward<A>(given)...); %> %>;
 template <class M, class C, bool = is_function<M>::value> struct __member_caller <%
   template <class T, class... A> static auto call(M C::*member, T &&object, A &&...given)
       -> decltype((__object_for<C, T>::of(object).*member)(forward<A>(given)...)) <%
     return (__object_for<C, T>::of(object).*member)(forward<A>(given)...); %> %>;
 template <class M, class C> struct __member_caller<M, C, false> <%
   template <class T> static auto call(M C::*member, T &&object)
       -> decltype((__object_for<C, T>::of(object).*member)) <%
     return __object_for<C, T>::of(object).*member; %> %>;
 template <class M, class C> struct __caller<M C::*> : __member_caller<M, C> <%%>;
 template <class F, class... A> auto __invoke(F &&f, A &&...given)
     -> decltype(__caller<typename decay<F>::type>::call(forward<F>(f), forward<A>(given)...)) <%
   return __caller<typename decay<F>::type>::call(forward<F>(f), forward<A>(given)...); %>
 #if __cplusplus >= 201703L
 template <class F, class... A> decltype(auto) invoke(F &&f, A &&...given) <%
   return __invoke(forward<F>(f), forward<A>(given)...); %>
 #endif
 template <class S> class function;
 template <class R> struct __returned <%
   template <class F, class... A> static R call(F &f, A &&...given) <%
     return __invoke(f, forward<A>(given)...); %> %>;
 template <> struct __returned<void> <%
   template <class F, class... A> static void call(F &f, A &&...given) <%
     __invoke(f, forward<A>(given)...); %> %>;
 template <class R, class... A> class function<R(A...)> <%
   struct __base <%
     virtual ~__base() <%%>
     virtual R call(A...) = 0;
     virtual __base *copy() const = 0;
     virtual const type_info &type() const = 0;
     virtual void *place() = 0;
   %>;
   template <class F> struct __held : __base <%
     F f;
     __held(const F &g) : f(g) <%%>
     __held(F &&g) : f(move(g)) <%%>
     R call(A... given) override <% return __returned<R>::call(f, forward<A>(given)...); %>
     __base *copy() const override <% return new __held(f); %>
     const type_info &type() const override <% return typeid(F); %>
     void *place() override <% return addressof(f); %>
   %>;
   __base *__f;
   void *__rest[3];
   template <class F> static bool __is_empty_target(const F &) <% return false; %>
   template <class F> static bool __is_empty_target(F *f) <% return f == nullptr; %>
   template <class M, class C> static bool __is_empty_target(M C::*f) <% return f == nullptr; %>
   template <class S> static bool __is_empty_target(const function<S> &f) <% return !f; %>
   template <class F> struct __takes <%
     template <class G> static auto test(int)
         -> decltype(__invoke(declval<G &>(), declval<A>()...), true_type());
     template <class G> static false_type test(...);
     static constexpr bool value = decltype(test<F>(0))::value;
   %>;
 public:
   typedef R result_type;
   function() noexcept : __f(nullptr) <%%>
   function(decltype(nullptr)) noexcept : __f(nullptr) <%%>
   function(const function &other) : __f(other.__f ? other.__f->copy() : nullptr) <%%>
   function(function &&other) noexcept : __f(other.__f) <% other.__f = nullptr; %>
   template <class F, class D = typename decay<F>::type, class = typename enable_if<
       !is_same<D, function>::value && __takes<D>::value>::type>
   function(F &&f) : __f(__is_empty_target(f) ? nullptr : new __held<D>(forward<F>(f))) <%%>
   ~function() <% delete __f; %>
   function &operator=(const function &other) <% function(other).swap(*this); return *this; %>
   function &operator=(function &&other) noexcept <%
     function(move(other)).swap(*this); return *this; %>
   function &operator=(decltype(nullptr)) noexcept <%
     delete __f; __f = nullptr; return *this; %>
   template <class F, class D = typename decay<F>::type, class = typename enable_if<
       !is_same<D, function>::value && __takes<D>::value>::type>
   function &operator=(F &&f) <% function(forward<F>(f)).swap(*this); return *this; %>
   void swap(function &other) noexcept <% __base *f = __f; __f = other.__f; other.__f = f; %>
   explicit operator bool() const noexcept <% return __f != nullptr; %>
   R operator()(A... given) const <%
     if (!__f) __throw_bad_function_call();
     return __f->call(forward<A>(given)...); %>
   const type_info &target_type() const noexcept <% return __f ? __f->type() : typeid(void); %>
   template <class T> T *target() noexcept <%
     return __f && __f->type() == typeid(T) ? static_cast<T *>(__f->place()) : nullptr; %>
 %>;
 template <class R, class... A> bool operator==(const function<R(A...)> &f, decltype(nullptr)) <%
   return !f; %>
 template <class R, class... A> bool operator==(decltype(nullptr), const function<R(A...)> &f) <%
   return !f; %>
 template <class R, class... A> bool operator!=(const function<R(A...)> &f, decltype(nullptr)) <%
   return bool(f); %>
 template <class R, class... A> bool operator!=(decltype(nullptr), const function<R(A...)> &f) <%
   return bool(f); %>
 template <class R, class... A> void swap(function<R(A...)> &a, function<R(A...)> &b) <%
   a.swap(b); %>
 #if __cplusplus >= 201703L
 template <class R, class... A> function(R (*)(A...)) -> function<R(A...)>;
 #endif
 template <class M> struct __member_function <%
   M member;
   template <class T, class... A> auto operator()(T &&object, A &&...given) const
       -> decltype(__invoke(member, forward<T>(object), forward<A>(given)...)) <%
     return __invoke(member, forward<T>(object), forward<A>(given)...); %> %>;
 template <class M, class C> __member_function<M C::*> mem_fn(M C::*member) <%
   return __member_function<M C::*><%member%>; %>
 template <int n> struct __placeholder <%%>;
 namespace placeholders <%
 static const __placeholder<1> _1 = <%%>;
 static const __placeholder<2> _2 = <%%>;
 static const __placeholder<3> _3 = <%%>;
 static const __placeholder<4> _4 = <%%>;
 static const __placeholder<5> _5 = <%%>;
 static const __placeholder<6> _6 = <%%>;
 %>
 template <class F, class... B> class __bound;
 template <class T> struct is_bind_expression : false_type <%%>;
 template <class F, class... B> struct is_bind_expression<__bound<F, B...>> : true_type <%%>;
 template <class T> struct is_placeholder : integral_constant<int, 0> <%%>;
 template <int n> struct is_placeholder<__placeholder<n>> : integral_constant<int, n> <%%>;
 template <int n> struct is_placeholder<const __placeholder<n>> : integral_constant<int, n> <%%>;
 template <class T, class G> T &__bound_value(T &kept, G &) <% return kept; %>
 template <class T, class G> T &__bound_value(reference_wrapper<T> &kept, G &) <%
   return kept.get(); %>
 template <int n, class G> auto __bound_value(const __placeholder<n> &, G &given)
     -> decltype(get<n - 1>(move(given))) <% return get<n - 1>(move(given)); %>
 template <int n, class G> auto __bound_value(__placeholder<n> &, G &given)
     -> decltype(get<n - 1>(move(given))) <% return get<n - 1>(move(given)); %>
 template <class F, class... B> class __bound <%
   F __f; tuple<B...> __kept_values;
   template <class G, size_t... i> auto __call(G &&given, index_sequence<i...>)
       -> decltype(__invoke(__f, __bound_value(get<i>(__kept_values), given)...)) <%
     return __invoke(__f, __bound_value(get<i>(__kept_values), given)...); %>
 public:
   template <class G, class... A> explicit __bound(int, G &&f, A &&...given)
       : __f(forward<G>(f)), __kept_values(forward<A>(given)...) <%%>
   template <class... A> auto operator()(A &&...given)
       -> decltype(__call(forward_as_tuple(forward<A>(given)...), index_sequence_for<B...>())) <%
     return __call(forward_as_tuple(forward<A>(given)...), index_sequence_for<B...>()); %>
 %>;
 template <class F, class... B, class G, size_t... i>
 auto __call_nested(__bound<F, B...> &f, G &given, index_sequence<i...>)
     -> decltype(f(get<i>(move(given))...)) <% return f(get<i>(move(given))...); %>
 template <class F, class... B, class... A>
 auto __bound_value(__bound<F, B...> &f, tuple<A...> &given)
     -> decltype(__call_nested(f, given, index_sequence_for<A...>())) <%
   return __call_nested(f, given, index_sequence_for<A...>()); %>
 template <class F, class... A>
 __bound<typename decay<F>::type, typename decay<A>::type...> bind(F &&f, A &&...given) <%
   return __bound<typename decay<F>::type, typename decay<A>::type...>(
       0, forward<F>(f), forward<A>(given)...); %>
 template <class P> struct __negated <%
   P test;
   template <class... A> bool operator()(A &&...given) <% return !test(forward<A>(given)...); %>
 %>;
 template <class P> __negated<P> not1(P test) <% return __negated<P><%test%>; %>
 template <class P> __negated<P> not_fn(P test) <% return __negated<P><%test%>; %>
 %>
"

/-- Pointers that own what they point to. -/
def ownership : Octets := "
 #include <functional>
 #include <__failures>
 namespace std <%
 template <class T> struct default_delete <%
   default_delete() noexcept <%%>
   template <class U, class = typename enable_if<is_convertible<U *, T *>::value>::type>
   default_delete(const default_delete<U> &) noexcept <%%>
   void operator()(T *place) const <%
     static_assert(sizeof(T) > 0, \"can't delete pointer to incomplete type\"); delete place; %>
 %>;
 template <class T> struct default_delete<T[]> <%
   default_delete() noexcept <%%>
   void operator()(T *place) const <% delete[] place; %>
 %>;
 template <class D, bool = is_empty<D>::value> struct __deleter_part : D <%
   __deleter_part() : D() <%%>
   template <class E> explicit __deleter_part(int, E &&d) : D(forward<E>(d)) <%%>
   D &__deleter() <% return *this; %>
   const D &__deleter() const <% return *this; %>
 %>;
 template <class D> struct __deleter_part<D, false> <%
   D __d;
   __deleter_part() : __d() <%%>
   template <class E> explicit __deleter_part(int, E &&d) : __d(forward<E>(d)) <%%>
   typename remove_reference<D>::type &__deleter() <% return __d; %>
   const typename remove_reference<D>::type &__deleter() const <% return __d; %>
 %>;
 template <class T, class D = default_delete<T>> class unique_ptr : __deleter_part<D> <%
   T *__place;
   typedef __deleter_part<D> __part;
 public:
   typedef T *pointer; typedef T element_type; typedef D deleter_type;
   unique_ptr() noexcept : __part(), __place(nullptr) <%%>
   unique_ptr(decltype(nullptr)) noexcept : __part(), __place(nullptr) <%%>
   explicit unique_ptr(T *place) noexcept : __part(), __place(place) <%%>
   template <class E> unique_ptr(T *place, E &&d) noexcept
       : __part(0, forward<E>(d)), __place(place) <%%>
   unique_ptr(unique_ptr &&other) noexcept
       : __part(0, forward<D>(other.get_deleter())), __place(other.release()) <%%>
   template <class U, class E, class = typename enable_if<
       is_convertible<U *, T *>::value>::type>
   unique_ptr(unique_ptr<U, E> &&other) noexcept
       : __part(0, forward<E>(other.get_deleter())), __place(other.release()) <%%>
   unique_ptr(const unique_ptr &) = delete;
   unique_ptr &operator=(const unique_ptr &) = delete;
   ~unique_ptr() <% if (__place) this->__deleter()(__place); __place = nullptr; %>
   unique_ptr &operator=(unique_ptr &&other) noexcept <%
     reset(other.release()); this->__deleter() = forward<D>(other.get_deleter());
     return *this; %>
   template <class U, class E> unique_ptr &operator=(unique_ptr<U, E> &&other) noexcept <%
     reset(other.release()); return *this; %>
   unique_ptr &operator=(decltype(nullptr)) noexcept <% reset(); return *this; %>
   T &operator*() const <% return *__place; %>
   T *operator->() const noexcept <% return __place; %>
   T *get() const noexcept <% return __place; %>
   typename remove_reference<D>::type &get_deleter() noexcept <% return this->__deleter(); %>
   const typename remove_reference<D>::type &get_deleter() const noexcept <%
     return this->__deleter(); %>
   explicit operator bool() const noexcept <% return __place != nullptr; %>
   T *release() noexcept <% T *place = __place; __place = nullptr; return place; %>
   void reset(T *place = nullptr) noexcept <%
     T *old = __place; __place = place; if (old) this->__deleter()(old); %>
   void swap(unique_ptr &other) noexcept <%
     T *place = __place; __place = other.__place; other.__place = place;
     std::swap(this->__deleter(), other.__deleter()); %>
 %>;
 template <class T, class D> class unique_ptr<T[], D> : __deleter_part<D> <%
   T *__place;
   typedef __deleter_part<D> __part;
 public:
   typedef T *pointer; typedef T element_type; typedef D deleter_type;
   unique_ptr() noexcept : __part(), __place(nullptr) <%%>
   unique_ptr(decltype(nullptr)) noexcept : __part(), __place(nullptr) <%%>
   explicit unique_ptr(T *place) noexcept : __part(), __place(place) <%%>
   template <class E> unique_ptr(T *place, E &&d) noexcept
       : __part(0, forward<E>(d)), __place(place) <%%>
   unique_ptr(unique_ptr &&other) noexcept
       : __part(0, forward<D>(other.get_deleter())), __place(other.release()) <%%>
   unique_ptr(const unique_ptr &) = delete;
   unique_ptr &operator=(const unique_ptr &) = delete;
   ~unique_ptr() <% if (__place) this->__deleter()(__place); %>
   unique_ptr &operator=(unique_ptr &&other) noexcept <%
     reset(other.release()); return *this; %>
   T &operator[](size_t i) const <% return __place[i]; %>
   T *get() const noexcept <% return __place; %>
   D &get_deleter() noexcept <% return this->__deleter(); %>
   explicit operator bool() const noexcept <% return __place != nullptr; %>
   T *release() noexcept <% T *place = __place; __place = nullptr; return place; %>
   void reset(T *place = nullptr) noexcept <%
     T *old = __place; __place = place; if (old) this->__deleter()(old); %>
   void swap(unique_ptr &other) noexcept <%
     T *place = __place; __place = other.__place; other.__place = place; %>
 %>;
 #if __cplusplus >= 201402L
 template <class T> struct __unique_made <% typedef unique_ptr<T> single; %>;
 template <class T> struct __unique_made<T[]> <% typedef unique_ptr<T[]> row; %>;
 template <class T, class... A>
 typename __unique_made<T>::single make_unique(A &&...given) <%
   return unique_ptr<T>(new T(forward<A>(given)...)); %>
 template <class T> typename __unique_made<T>::row make_unique(size_t n) <%
   return unique_ptr<T>(new typename remove_extent<T>::type[n]()); %>
 #endif
 #define __COMPARE(mark) \\
   template <class T, class D, class U, class E> \\
   bool operator mark(const unique_ptr<T, D> &a, const unique_ptr<U, E> &b) <% \\
     return a.get() mark b.get(); %>
 __COMPARE(==)
 __COMPARE(!=)
 __COMPARE(<)
 __COMPARE(>)
 #undef __COMPARE
 template <class T, class D> bool operator==(const unique_ptr<T, D> &a, decltype(nullptr)) <%
   return !a; %>
 template <class T, class D> bool operator!=(const unique_ptr<T, D> &a, decltype(nullptr)) <%
   return bool(a); %>
 template <class T, class D> bool operator==(decltype(nullptr), const unique_ptr<T, D> &a) <%
   return !a; %>
 template <class T, class D> bool operator!=(decltype(nullptr), const unique_ptr<T, D> &a) <%
   return bool(a); %>
 template <class T, class D> void swap(unique_ptr<T, D> &a, unique_ptr<T, D> &b) noexcept <%
   a.swap(b); %>
 template <class T, class D> struct hash<unique_ptr<T, D>> <%
   size_t operator()(const unique_ptr<T, D> &p) const noexcept <%
     return reinterpret_cast<size_t>(p.get()); %> %>;
 class bad_weak_ptr : public exception <%
 public:
   const char *what() const noexcept override <% return \"bad_weak_ptr\"; %>
 %>;
 struct __counts <%
   long uses, watchers;
   __counts() : uses(1), watchers(1) <%%>
   virtual ~__counts() <%%>
   virtual void dispose() = 0;
   virtual void *deleter(const type_info &) <% return nullptr; %>
   void release() <% if (--uses == 0) <% dispose(); forget(); %> %>
   void forget() <% if (--watchers == 0) delete this; %>
 %>;
 template <class P, class D> struct __counts_of : __counts <%
   P place; D d;
   __counts_of(P p, const D &e) : place(p), d(e) <%%>
   __counts_of(P p, D &&e) : place(p), d(std::move(e)) <%%>
   void dispose() override <% d(place); %>
   void *deleter(const type_info &type) override <% return type == typeid(D) ? &d : nullptr; %>
 %>;
 template <class T> struct __counts_in : __counts <%
   union <% T object; %>;
   template <class... A> __counts_in(A &&...given) : object(forward<A>(given)...) <%%>
   ~__counts_in() <%%>
   void dispose() override <% object.~T(); %>
 %>;
 template <class T> class shared_ptr;
 template <class T> class weak_ptr;
 template <class T> class enable_shared_from_this;
 template <class T, class U>
 void __adopt(const shared_ptr<T> &owner, const enable_shared_from_this<U> *object);
 inline void __adopt(...) <%%>
 template <class T> class shared_ptr <%
 public:
   typedef typename remove_extent<T>::type element_type; typedef weak_ptr<T> weak_type;
 private:
   typedef element_type __element;
   __element *__place; __counts *__count;
   template <class U> friend class shared_ptr;
   template <class U> friend class weak_ptr;
   template <class U> static default_delete<U> __plain_delete(U *, false_type) <%
     return default_delete<U>(); %>
   template <class U> static default_delete<U[]> __plain_delete(U *, true_type) <%
     return default_delete<U[]>(); %>
 public:
   shared_ptr(__element *place, __counts *count, int) : __place(place), __count(count) <%%>
   shared_ptr() noexcept : __place(nullptr), __count(nullptr) <%%>
   shared_ptr(decltype(nullptr)) noexcept : __place(nullptr), __count(nullptr) <%%>
   template <class U, class = typename enable_if<is_convertible<U *, __element *>::value>::type>
   explicit shared_ptr(U *place) : __place(place), __count(nullptr) <%
     auto d = __plain_delete(place, is_array<T>());
     try <% __count = new __counts_of<U *, decltype(d)>(place, d); %>
     catch (...) <% d(place); throw; %>
     __adopt(*this, place); %>
   template <class U, class D> shared_ptr(U *place, D d) : __place(place), __count(nullptr) <%
     __count = new __counts_of<U *, D>(place, std::move(d)); __adopt(*this, place); %>
   template <class D> shared_ptr(decltype(nullptr), D d) : __place(nullptr), __count(nullptr) <%
     __count = new __counts_of<__element *, D>(nullptr, std::move(d)); %>
   template <class U> shared_ptr(const shared_ptr<U> &other, __element *place) noexcept
       : __place(place), __count(other.__count) <% if (__count) ++__count->uses; %>
   shared_ptr(const shared_ptr &other) noexcept
       : __place(other.__place), __count(other.__count) <% if (__count) ++__count->uses; %>
   shared_ptr(shared_ptr &&other) noexcept : __place(other.__place), __count(other.__count) <%
     other.__place = nullptr; other.__count = nullptr; %>
   template <class U, class = typename enable_if<is_convertible<U *, T *>::value>::type>
   shared_ptr(const shared_ptr<U> &other) noexcept
       : __place(other.__place), __count(other.__count) <% if (__count) ++__count->uses; %>
   template <class U, class = typename enable_if<is_convertible<U *, T *>::value>::type>
   shared_ptr(shared_ptr<U> &&other) noexcept : __place(other.__place), __count(other.__count) <%
     other.__place = nullptr; other.__count = nullptr; %>
   template <class U> explicit shared_ptr(const weak_ptr<U> &other)
       : __place(other.__place), __count(other.__count) <%
     if (!__count || __count->uses == 0) throw bad_weak_ptr();
     ++__count->uses; %>
   template <class U, class D> shared_ptr(unique_ptr<U, D> &&other)
       : __place(other.get()), __count(nullptr) <%
     if (other.get()) <%
       U *place = other.get();
       __count = new __counts_of<U *, D>(place, std::move(other.get_deleter()));
       other.release(); __adopt(*this, place); %> %>
   ~shared_ptr() <% if (__count) __count->release(); %>
   shared_ptr &operator=(const shared_ptr &other) noexcept <%
     shared_ptr(other).swap(*this); return *this; %>
   shared_ptr &operator=(shared_ptr &&other) noexcept <%
     shared_ptr(std::move(other)).swap(*this); return *this; %>
   template <class U> shared_ptr &operator=(const shared_ptr<U> &other) noexcept <%
     shared_ptr(other).swap(*this); return *this; %>
   template <class U> shared_ptr &operator=(shared_ptr<U> &&other) noexcept <%
     shared_ptr(std::move(other)).swap(*this); return *this; %>
   template <class U, class D> shared_ptr &operator=(unique_ptr<U, D> &&other) <%
     shared_ptr(std::move(other)).swap(*this); return *this; %>
   void swap(shared_ptr &other) noexcept <%
     std::swap(__place, other.__place); std::swap(__count, other.__count); %>
   void reset() noexcept <% shared_ptr().swap(*this); %>
   template <class U> void reset(U *place) <% shared_ptr(place).swap(*this); %>
   template <class U, class D> void reset(U *place, D d) <%
     shared_ptr(place, std::move(d)).swap(*this); %>
   __element *get() const noexcept <% return __place; %>
   __element &operator*() const noexcept <% return *__place; %>
   __element *operator->() const noexcept <% return __place; %>
   __element &operator[](ptrdiff_t i) const <% return __place[i]; %>
   long use_count() const noexcept <% return __count ? __count->uses : 0; %>
   bool unique() const noexcept <% return use_count() == 1; %>
   explicit operator bool() const noexcept <% return __place != nullptr; %>
   template <class U> bool owner_before(const shared_ptr<U> &other) const noexcept <%
     return __count < other.__count; %>
   __counts *__counters() const noexcept <% return __count; %>
 %>;
 template <class T> class weak_ptr <%
   typedef typename remove_extent<T>::type __element;
   __element *__place; __counts *__count;
   template <class U> friend class shared_ptr;
   template <class U> friend class weak_ptr;
 public:
   typedef __element element_type;
   weak_ptr() noexcept : __place(nullptr), __count(nullptr) <%%>
   weak_ptr(const weak_ptr &other) noexcept : __place(other.__place), __count(other.__count) <%
     if (__count) ++__count->watchers; %>
   weak_ptr(weak_ptr &&other) noexcept : __place(other.__place), __count(other.__count) <%
     other.__place = nullptr; other.__count = nullptr; %>
   template <class U, class = typename enable_if<is_convertible<U *, T *>::value>::type>
   weak_ptr(const weak_ptr<U> &other) noexcept
       : __place(other.__place), __count(other.__count) <% if (__count) ++__count->watchers; %>
   template <class U, class = typename enable_if<is_convertible<U *, T *>::value>::type>
   weak_ptr(const shared_ptr<U> &other) noexcept
       : __place(other.__place), __count(other.__count) <% if (__count) ++__count->watchers; %>
   ~weak_ptr() <% if (__count) __count->forget(); %>
   weak_ptr &operator=(const weak_ptr &other) noexcept <%
     weak_ptr(other).swap(*this); return *this; %>
   weak_ptr &operator=(weak_ptr &&other) noexcept <%
     weak_ptr(std::move(other)).swap(*this); return *this; %>
   template <class U> weak_ptr &operator=(const shared_ptr<U> &other) noexcept <%
     weak_ptr(other).swap(*this); return *this; %>
   void swap(weak_ptr &other) noexcept <%
     std::swap(__place, other.__place); std::swap(__count, other.__count); %>
   void reset() noexcept <% weak_ptr().swap(*this); %>
   long use_count() const noexcept <% return __count ? __count->uses : 0; %>
   bool expired() const noexcept <% return use_count() == 0; %>
   shared_ptr<T> lock() const noexcept <%
     if (expired()) return shared_ptr<T>();
     ++__count->uses; return shared_ptr<T>(__place, __count, 0); %>
 %>;
 template <class T> class enable_shared_from_this <%
   template <class U, class V>
   friend void __adopt(const shared_ptr<U> &owner, const enable_shared_from_this<V> *object);
 public:
   mutable weak_ptr<T> __self;
 protected:
   enable_shared_from_this() noexcept <%%>
   enable_shared_from_this(const enable_shared_from_this &) noexcept <%%>
   enable_shared_from_this &operator=(const enable_shared_from_this &) noexcept <% return
       *this; %>
   ~enable_shared_from_this() <%%>
 public:
   shared_ptr<T> shared_from_this() <% return shared_ptr<T>(__self); %>
   shared_ptr<const T> shared_from_this() const <% return shared_ptr<const T>(__self); %>
 #if __cplusplus >= 201703L
   weak_ptr<T> weak_from_this() noexcept <% return __self; %>
 #endif
 %>;
 template <class T, class U>
 void __adopt(const shared_ptr<T> &owner, const enable_shared_from_this<U> *object) <%
   if (object && object->__self.expired())
     object->__self = shared_ptr<U>(owner,
         const_cast<U *>(static_cast<const U *>(object))); %>
 template <class T, class... A> shared_ptr<T> make_shared(A &&...given) <%
   typedef typename remove_const<T>::type plain;
   __counts_in<plain> *count = new __counts_in<plain>(forward<A>(given)...);
   shared_ptr<T> made(&count->object, count, 0);
   __adopt(made, &count->object);
   return made; %>
 template <class T, class B, class... A>
 shared_ptr<T> allocate_shared(const B &, A &&...given) <%
   return make_shared<T>(forward<A>(given)...); %>
 template <class T, class U> shared_ptr<T> static_pointer_cast(const shared_ptr<U> &p) noexcept <%
   return shared_ptr<T>(p, static_cast<T *>(p.get())); %>
 template <class T, class U> shared_ptr<T> const_pointer_cast(const shared_ptr<U> &p) noexcept <%
   return shared_ptr<T>(p, const_cast<T *>(p.get())); %>
 template <class T, class U>
 shared_ptr<T> dynamic_pointer_cast(const shared_ptr<U> &p) noexcept <%
   T *place = dynamic_cast<T *>(p.get());
   return place ? shared_ptr<T>(p, place) : shared_ptr<T>(); %>
 template <class D, class T> D *get_deleter(const shared_ptr<T> &p) noexcept <%
   return p.__counters() ? static_cast<D *>(p.__counters()->deleter(typeid(D))) : nullptr; %>
 #define __COMPARE(mark) \\
   template <class T, class U> \\
   bool operator mark(const shared_ptr<T> &a, const shared_ptr<U> &b) noexcept <% \\
     return a.get() mark b.get(); %>
 __COMPARE(==)
 __COMPARE(!=)
 __COMPARE(<)
 __COMPARE(>)
 __COMPARE(<=)
 __COMPARE(>=)
 #undef __COMPARE
 template <class T> bool operator==(const shared_ptr<T> &a, decltype(nullptr)) noexcept <%
   return !a; %>
 template <class T> bool operator!=(const shared_ptr<T> &a, decltype(nullptr)) noexcept <%
   return bool(a); %>
 template <class T> bool operator==(decltype(nullptr), const shared_ptr<T> &a) noexcept <%
   return !a; %>
 template <class T> bool operator!=(decltype(nullptr), const shared_ptr<T> &a) noexcept <%
   return bool(a); %>
 template <class T> void swap(shared_ptr<T> &a, shared_ptr<T> &b) noexcept <% a.swap(b); %>
 template <class T> struct hash<shared_ptr<T>> <%
   size_t operator()(const shared_ptr<T> &p) const noexcept <%
     return reinterpret_cast<size_t>(p.get()); %> %>;
 template <class T = void> struct owner_less <%
   template <class U, class V>
   bool operator()(const shared_ptr<U> &a, const shared_ptr<V> &b) const <%
     return a.owner_before(b); %> %>;
 template <class I, class J> J uninitialized_copy(I first, I last, J target) <%
   typedef typename iterator_traits<J>::value_type T;
   for (; first != last; ++first, ++target) ::new ((void *)addressof(*target)) T(*first);
   return target; %>
 template <class I, class T> void uninitialized_fill(I first, I last, const T &value) <%
   typedef typename iterator_traits<I>::value_type U;
   for (; first != last; ++first) ::new ((void *)addressof(*first)) U(value); %>
 template <class T> void destroy_at(T *place) <% place->~T(); %>
 inline void *align(size_t alignment, size_t size, void *&place, size_t &room) <%
   size_t address = reinterpret_cast<size_t>(place);
   size_t skipped = (alignment - address % alignment) % alignment;
   if (size + skipped > room) return nullptr;
   room -= skipped; return place = reinterpret_cast<void *>(address + skipped); %>
 %>
"

/-- The headers of functions as objects. -/
def functionHeaders : List (Octets × Octets) :=
  [("functional", functionObjects), ("memory", ownership)]

end QueryFoundry.Native.Headers
